import Offload.Machine.Bindings
import Offload.Proofs.Memory

/-! The bytes that bindings account for. Binding an object adds the size of its buffer and unbinding
takes the same size off again, so the total is decided by the buffers that are bound. -/
namespace Offload

/-! ### Totals of a changed list -/

/-- A total without one of its terms, whichever stands in its place. -/
theorem sum_map_others (f : α → Nat) {l : List α} {index : Nat} {a : α} (found : l[index]? = some a) :
    ∃ others, (l.map f).sum = f a + others ∧ ∀ b, ((l.set index b).map f).sum = f b + others := by
  obtain ⟨within, here⟩ := List.getElem?_eq_some_iff.1 found
  refine ⟨((l.take index).map f).sum + ((l.drop (index + 1)).map f).sum, ?_, fun b => ?_⟩
  · have split : l = l.take index ++ a :: l.drop (index + 1) := by
      rw [← here, List.getElem_cons_drop, List.take_append_drop]
    conv => lhs; rw [split]
    rw [List.map_append, List.map_cons, List.sum_append, List.sum_cons]
    omega
  · rw [List.set_eq_take_append_cons_drop, if_pos within, List.map_append, List.map_cons, List.sum_append,
      List.sum_cons]
    omega

/-- A total in which one term has changed. -/
theorem sum_map_set (f : α → Nat) {l : List α} {index : Nat} {old : α} (new : α) (found : l[index]? = some old) :
    ((l.set index new).map f).sum + f old = (l.map f).sum + f new := by
  obtain ⟨others, whole, changed⟩ := sum_map_others f found
  rw [whole, changed]
  omega

theorem sum_map_modify (f : α → Nat) (change : α → α) {l : List α} {index : Nat} {old : α}
    (found : l[index]? = some old) :
    ((l.modify index change).map f).sum + f old = (l.map f).sum + f (change old) := by
  obtain ⟨within, rfl⟩ := List.getElem?_eq_some_iff.1 found
  have changed : l.modify index change = l.set index (change l[index]) := by
    rw [List.modify_eq_take_cons_drop within, List.set_eq_take_append_cons_drop, if_pos within]
  rw [changed]
  exact sum_map_set f (change l[index]) found

namespace Bindings

variable {bs : Bindings} {binding : Binding} {object other : Nat} {buffer : DeviceBuffer}

theorem get_ok_iff : bs.get object = .ok binding ↔ bs.entries[object]? = some binding := by
  unfold get
  rcases bs.entries[object]? with _ | found <;> simp

/-- The buffer that an object is bound to. -/
def buffer? (bs : Bindings) (object : Nat) : Option DeviceBuffer :=
  (bs.entries[object]?).bind Binding.buffer

/-- The buffer of an object is the one in its entry. -/
theorem buffer?_of_get (found : bs.get object = .ok binding) :
    bs.buffer? object = binding.buffer := by
  rw [buffer?, get_ok_iff.1 found]
  rfl

/-- A change of one binding is seen at its object only. -/
theorem entries_modify (bs : Bindings) (object other : Nat) (change : Binding → Binding) :
    (bs.modify object change).entries[other]? =
      if object = other then (bs.entries[other]?).map change else bs.entries[other]? := by
  unfold modify
  rw [List.getElem?_modify]
  split <;> rcases bs.entries[other]? with _ | _ <;> rfl

/-- The buffers after a change of one binding. -/
theorem buffer?_modify (bs : Bindings) (object other : Nat) (change : Binding → Binding) :
    (bs.modify object change).buffer? other =
      if object = other then (bs.entries[other]?).bind (fun b => (change b).buffer)
      else bs.buffer? other := by
  unfold buffer?
  rw [entries_modify]
  split <;> rcases bs.entries[other]? with _ | _ <;> rfl

/-- A change that keeps the buffer of an object is not seen. -/
theorem buffer?_modify_same {change : Binding → Binding}
    (same : ∀ b, (change b).buffer = b.buffer) :
    (bs.modify object change).buffer? other = bs.buffer? other := by
  rw [buffer?_modify]
  split
  · simp only [same]
    rfl
  · rfl

/-- Bound bytes are decided by the bound buffers. -/
theorem boundBytes_congr {bs bs' : Bindings} (length : bs.entries.length = bs'.entries.length)
    (same : ∀ object, bs.buffer? object = bs'.buffer? object) : bs.boundBytes = bs'.boundBytes := by
  unfold boundBytes
  congr 1
  refine List.ext_getElem (by simp [length]) ?_
  intro object inLeft inRight
  simp only [List.length_map] at inLeft inRight
  have buffers := same object
  simp only [buffer?, List.getElem?_eq_getElem inLeft, List.getElem?_eq_getElem inRight,
    Option.bind_some] at buffers
  simp only [List.getElem_map, Binding.boundBytes, buffers]

/-- A change that keeps buffers keeps the bound bytes. -/
theorem boundBytes_modify_same {change : Binding → Binding}
    (same : ∀ b, (change b).buffer = b.buffer) :
    (bs.modify object change).boundBytes = bs.boundBytes :=
  boundBytes_congr (by simp [modify]) fun _ => buffer?_modify_same same

/-- A buffer that is bound where there was none adds its size. -/
theorem boundBytes_bind (found : bs.entries[object]? = some binding) (free : binding.buffer = none) :
    (bs.modify object fun b => b.bind buffer).boundBytes = bs.boundBytes + buffer.size := by
  have moved := sum_map_modify Binding.boundBytes (fun b => b.bind buffer) found
  simp only [Binding.bind, Binding.boundBytes, free, Option.map_none, Option.map_some,
    Option.getD_none, Option.getD_some, Nat.add_zero] at moved
  exact moved

/-- A buffer that is unbound takes its size away. -/
theorem boundBytes_unbind (found : bs.entries[object]? = some binding)
    (bound : binding.buffer = some buffer) :
    (bs.modify object Binding.unbind).boundBytes + buffer.size = bs.boundBytes := by
  have moved := sum_map_modify Binding.boundBytes Binding.unbind found
  simp only [Binding.unbind, Binding.boundBytes, bound, Option.map_none, Option.map_some,
    Option.getD_none, Option.getD_some, Nat.add_zero] at moved
  exact moved

@[simp] theorem boundBytes_unbindAll (bs : Bindings) : bs.unbindAll.boundBytes = 0 := by
  unfold boundBytes unbindAll
  rw [List.map_map]
  exact List.sum_eq_zero_iff_forall_eq_nat.2 (by simp [Binding.unbind, Binding.boundBytes])

@[simp] theorem buffer?_unbindAll (bs : Bindings) (object : Nat) :
    bs.unbindAll.buffer? object = none := by
  unfold buffer? unbindAll
  rw [List.getElem?_map]
  rcases bs.entries[object]? with _ | _ <;> rfl

@[simp] theorem boundBytes_ofContext (c : Context) : (ofContext c).boundBytes = 0 := by
  unfold boundBytes ofContext
  rw [List.map_map]
  exact List.sum_eq_zero_iff_forall_eq_nat.2 (by simp [Binding.boundBytes])

@[simp] theorem buffer?_ofContext (c : Context) (object : Nat) :
    (ofContext c).buffer? object = none := by
  unfold buffer? ofContext
  rw [List.getElem?_map]
  rcases c.objects[object]? with _ | _ <;> rfl

/-! ### Bindings and the memory they point into -/

/-- Every bound buffer was handed out by the memory. It may be gone by now. -/
def IssuedBy (bs : Bindings) (memory : Memory) : Prop :=
  ∀ object buffer, bs.buffer? object = some buffer → memory.Issued buffer

/-- No buffers, none that the memory has not handed out. -/
theorem issuedBy_of_unbound {memory : Memory} (unbound : ∀ object, bs.buffer? object = none) :
    bs.IssuedBy memory := by
  intro object buffer bound
  rw [unbound object] at bound
  cases bound

/-- What was handed out once stays handed out. -/
theorem issuedBy_later {before after : Memory} (issued : bs.IssuedBy before)
    (grows : before.Grows after) : bs.IssuedBy after :=
  fun object buffer bound => Memory.issued_later (issued object buffer bound) grows

theorem issuedBy_modify_same {memory : Memory} {change : Binding → Binding}
    (same : ∀ b, (change b).buffer = b.buffer) (issued : bs.IssuedBy memory) :
    (bs.modify object change).IssuedBy memory := by
  intro other buffer bound
  rw [buffer?_modify_same same] at bound
  exact issued other buffer bound

/-- A buffer that the memory has handed out may be bound. -/
theorem issuedBy_bind {memory : Memory} (issued : bs.IssuedBy memory)
    (fresh : memory.Issued buffer) : (bs.modify object fun b => b.bind buffer).IssuedBy memory := by
  intro other b bound
  rw [buffer?_modify] at bound
  split at bound
  · obtain ⟨b', _, same⟩ := Option.bind_eq_some_iff.1 bound
    cases same
    exact fresh
  · exact issued other b bound

theorem issuedBy_unbind {memory : Memory} (issued : bs.IssuedBy memory) :
    (bs.modify object Binding.unbind).IssuedBy memory := by
  intro other b bound
  rw [buffer?_modify] at bound
  split at bound
  · obtain ⟨b', _, same⟩ := Option.bind_eq_some_iff.1 bound
    cases same
  · exact issued other b bound

end Bindings
end Offload
