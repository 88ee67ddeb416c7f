import Mathlib.Data.List.Pairwise
import Offload.Proofs.Buffers

/-! Release of what was allocated. An allocation binds each new object to a live buffer of its own, so
the same objects can be released again, in their order, and the usage is back where it was. -/
namespace Offload.Machine

variable {s t : Session} {others object : Nat}

/-- Each listed object can be released: its buffer lives, and no other listed object shares it. -/
structure Releasable (s : Session) (objects : List Nat) : Prop where
  inRange : ∀ o ∈ objects, ∃ entry binding, s.context.object o = .ok entry ∧
    s.machine.bindings.get o = .ok binding
  live : ∀ o ∈ objects, ∀ b, bufferOf s o = some b → s.device.memory.Live b
  apart : ∀ o ∈ objects, ∀ o' ∈ objects, o ≠ o' →
    ∀ b b', bufferOf s o = some b → bufferOf s o' = some b' → b.id ≠ b'.id

/-- What releases leave behind: the listed objects are unbound, the others are as they were. -/
structure Released (objects : List Nat) (before after : Session) : Prop where
  length : after.machine.bindings.entries.length = before.machine.bindings.entries.length
  listed : ∀ o ∈ objects, bufferOf after o = none
  others : ∀ o, o ∉ objects → bufferOf after o = bufferOf before o

theorem bufferOf_unbind {bs : Bindings} (object other : Nat) :
    (bs.modify object Binding.unbind).buffer? other =
      if object = other then none else bs.buffer? other := by
  rw [Bindings.buffer?_modify]
  split
  · rcases bs.entries[other]? with _ | _ <;> rfl
  · rfl

private theorem get_modify_isOk {bs : Bindings} (object : Nat) {other : Nat} (change : Binding → Binding)
    {binding : Binding} (found : bs.get other = .ok binding) :
    ∃ binding', (bs.modify object change).get other = .ok binding' := by
  have inTable := Bindings.get_ok_iff.1 found
  refine ⟨if object = other then change binding else binding, ?_⟩
  rw [Bindings.get_ok_iff, Bindings.entries_modify, inTable]
  split <;> rfl

private theorem released_single {rest : List Nat} (ready : Releasable s (object :: rest)) :
    ∃ freed t, Op.Yields (dealloc object) s freed t ∧ Released [object] s t ∧ Releasable t rest := by
  obtain ⟨entry, binding, inRange, found⟩ := ready.inRange object (by simp)
  have same := Bindings.buffer?_of_get found
  rcases bound : binding.buffer with _ | buffer <;> rw [bound] at same
  · refine ⟨0, s, yields_dealloc.2 ⟨entry, binding, inRange, found, .inl ⟨bound, rfl, rfl⟩⟩, ?_, ?_⟩
    · refine ⟨rfl, ?_, fun _ _ => rfl⟩
      intro o only
      rw [List.mem_singleton.1 only]
      exact same
    · exact ⟨fun o member => ready.inRange o (by simp [member]),
        fun o member => ready.live o (by simp [member]),
        fun o member o' member' => ready.apart o (by simp [member]) o' (by simp [member'])⟩
  · obtain ⟨held, live, _⟩ := ready.live object (by simp) buffer same
    have released := Memory.free_ok_iff.2 ⟨held, live, rfl, rfl⟩
    refine ⟨held.size, _, yields_dealloc.2 ⟨entry, binding, inRange, found, .inr
      ⟨buffer, _, bound, released, rfl⟩⟩, ?_, ?_⟩
    · refine ⟨by simp [Bindings.modify], ?_, ?_⟩
      · intro o only
        rw [List.mem_singleton.1 only]
        exact (bufferOf_unbind object object).trans (if_pos rfl)
      · intro o other
        exact (bufferOf_unbind object o).trans (if_neg fun same => other (by simp [same]))
    · have before : ∀ o b, (s.machine.bindings.modify object Binding.unbind).buffer? o = some b →
          object ≠ o ∧ bufferOf s o = some b := by
        intro o b boundAfter
        rw [bufferOf_unbind] at boundAfter
        split at boundAfter
        · cases boundAfter
        · next other => exact ⟨other, boundAfter⟩
      refine ⟨?_, ?_, ?_⟩
      · intro o member
        obtain ⟨entry', binding', inRange', found'⟩ := ready.inRange o (by simp [member])
        obtain ⟨binding'', found''⟩ := get_modify_isOk object Binding.unbind found'
        exact ⟨entry', binding'', inRange', found''⟩
      · intro o member b boundAfter
        obtain ⟨other, boundBefore⟩ := before o b boundAfter
        obtain ⟨held', live', size'⟩ := ready.live o (by simp [member]) b boundBefore
        have different := ready.apart object (by simp) o (by simp [member]) other buffer b same boundBefore
        refine ⟨held', ?_, size'⟩
        show (s.device.memory.buffers.erase buffer.id).get? b.id = some held'
        rw [Table.get?_erase, if_neg different]
        exact live'
      · intro o member o' member' different b b' boundAfter boundAfter'
        exact ready.apart o (by simp [member]) o' (by simp [member']) different b b'
          (before o b boundAfter).2 (before o' b' boundAfter').2

/-- The releases go through, one after the other. -/
theorem deallocAll_released {objects : List Nat} (ready : Releasable s objects) :
    ∃ freed t, Op.Yields (deallocAll objects) s freed t ∧ Released objects s t := by
  induction objects generalizing s with
  | nil =>
    refine ⟨0, s, Op.yields_pure.2 ⟨rfl, rfl⟩, rfl, ?_, fun _ _ => rfl⟩
    intro o member
    cases member
  | cons object rest ih =>
    obtain ⟨first, middle, released, one, readyRest⟩ := released_single ready
    obtain ⟨later, t, all, rested⟩ := ih readyRest
    refine ⟨first + later, t, ?_, ?_⟩
    · simp only [deallocAll, Op.yields_bind, Op.yields_pure]
      exact ⟨first, middle, released, later, t, all, rfl, rfl⟩
    · refine ⟨rested.length.trans one.length, ?_, ?_⟩
      · intro o member
        by_cases again : o ∈ rest
        · exact rested.listed o again
        · rw [rested.others o again]
          rcases List.mem_cons.1 member with rfl | inRest
          · exact one.listed o (by simp)
          · exact absurd inRest again
      · intro o other
        simp only [List.mem_cons, not_or] at other
        rw [rested.others o other.2, one.others o (by simp [other.1])]

theorem bufferRequests_inRange {c : Context} {bs : Bindings} {batchSize : Nat}
    {objects : List UInt32} {requests result : List BufferRequest}
    (ran : bufferRequests c bs batchSize objects requests = .ok result) :
    ∀ o ∈ objects, ∃ entry binding, c.object o.toNat = .ok entry ∧ bs.get o.toNat = .ok binding := by
  induction objects generalizing requests with
  | nil => simp
  | cons index rest ih =>
    obtain ⟨entry, binding, inRange, found, outcome⟩ := bufferRequests_cons ran
    intro o member
    rcases List.mem_cons.1 member with rfl | later
    · exact ⟨entry, binding, inRange, found⟩
    · rcases outcome with skipped | ⟨_, _, size, asked⟩
      · exact ih skipped o later
      · exact ih asked o later

/-- Nothing is requested that is not listed. -/
theorem bufferRequests_listed {c : Context} {bs : Bindings} {batchSize : Nat}
    {objects : List UInt32} {requests result : List BufferRequest}
    (ran : bufferRequests c bs batchSize objects requests = .ok result) :
    ∀ r ∈ result, r ∈ requests ∨ r.object ∈ objects.map UInt32.toNat := by
  induction objects generalizing requests with
  | nil =>
    cases ran
    exact fun r member => .inl member
  | cons index rest ih =>
    obtain ⟨entry, binding, inRange, found, skipped | ⟨_, _, size, asked⟩⟩ := bufferRequests_cons ran
    · intro r member
      rcases ih skipped r member with earlier | later
      · exact .inl earlier
      · exact .inr (by simp only [List.map_cons, List.mem_cons, later, or_true])
    · intro r member
      rcases ih asked r member with earlier | later
      · rcases List.mem_append.1 earlier with known | new
        · exact .inl known
        · exact .inr (by simp [List.mem_singleton.1 new])
      · exact .inr (by simp only [List.map_cons, List.mem_cons, later, or_true])

/-- A buffer that is bound after requests were bound was bound before, or belongs to one of them. -/
theorem buffer?_bindRequests {bs : Bindings} {pairs : List (BufferRequest × DeviceBuffer)}
    {buffer : DeviceBuffer} (bound : (bindRequests bs pairs).buffer? object = some buffer) :
    bs.buffer? object = some buffer ∨ ∃ r, (r, buffer) ∈ pairs ∧ r.object = object := by
  induction pairs generalizing bs with
  | nil => exact .inl bound
  | cons pair rest ih =>
    obtain ⟨request, new⟩ := pair
    rcases ih bound with here | ⟨r, member, same⟩
    · rw [Bindings.buffer?_modify] at here
      split at here
      · next same =>
        obtain ⟨b', _, only⟩ := Option.bind_eq_some_iff.1 here
        cases only
        exact .inr ⟨request, by simp, same⟩
      · exact .inl here
    · exact .inr ⟨r, by simp [member], same⟩

private theorem bindRequests_length (bs : Bindings) (pairs : List (BufferRequest × DeviceBuffer)) :
    (bindRequests bs pairs).entries.length = bs.entries.length := by
  induction pairs generalizing bs with
  | nil => rfl
  | cons pair rest ih =>
    rw [bindRequests, ih]
    simp [Bindings.modify]

theorem bindRequests_others {bs : Bindings} {pairs : List (BufferRequest × DeviceBuffer)}
    (absent : ∀ pair ∈ pairs, pair.1.object ≠ object) :
    (bindRequests bs pairs).entries[object]? = bs.entries[object]? := by
  induction pairs generalizing bs with
  | nil => rfl
  | cons pair rest ih =>
    rw [bindRequests, ih fun other member => absent other (by simp [member]),
      Bindings.entries_modify, if_neg (absent pair (by simp))]

private theorem get_bindRequests_isOk {bs : Bindings} (pairs : List (BufferRequest × DeviceBuffer))
    {binding : Binding} (found : bs.get object = .ok binding) :
    ∃ binding', (bindRequests bs pairs).get object = .ok binding' := by
  have inTable := Bindings.get_ok_iff.1 found
  obtain ⟨inBounds, _⟩ := List.getElem?_eq_some_iff.1 inTable
  rw [← bindRequests_length bs pairs] at inBounds
  exact ⟨_, Bindings.get_ok_iff.2 (List.getElem?_eq_getElem inBounds)⟩

/-- Objects that were not bound before an allocation are bound to live buffers of their own after it,
those that take no device memory excepted. -/
theorem releasable_of_alloc {batchSize : Nat} {objects : List UInt32} {u : Unit}
    (unbound : ∀ o ∈ objects, bufferOf s o.toNat = none)
    (ran : Op.Yields (alloc batchSize objects) s u t) :
    Releasable t (objects.map UInt32.toNat) := by
  obtain ⟨requests, asked, outcome⟩ := alloc_binds ran
  have inRange := bufferRequests_inRange asked
  rcases outcome with ⟨_, rfl⟩ | ⟨buffers, allocated, context, bindings⟩
  · refine ⟨?_, ?_, ?_⟩
    · intro o member
      obtain ⟨index, listed, rfl⟩ := List.mem_map.1 member
      exact inRange index listed
    · intro o member b bound
      obtain ⟨index, listed, rfl⟩ := List.mem_map.1 member
      rw [unbound index listed] at bound
      cases bound
    · intro o member _ _ _ b _ bound
      obtain ⟨index, listed, rfl⟩ := List.mem_map.1 member
      rw [unbound index listed] at bound
      cases bound
  have lengths := allocate_sizes allocated
  obtain ⟨_, added⟩ := Memory.allocate_ok_iff.1 allocated
  have origin : ∀ o ∈ objects.map UInt32.toNat, ∀ b, bufferOf t o = some b →
      ∃ r, (r, b) ∈ requests.zip buffers ∧ r.object = o := by
    intro o member b bound
    obtain ⟨index, listed, rfl⟩ := List.mem_map.1 member
    rw [bufferOf, bindings] at bound
    rcases buffer?_bindRequests bound with before | new
    · rw [← bufferOf, unbound index listed] at before
      cases before
    · exact new
  refine ⟨?_, ?_, ?_⟩
  · intro o member
    obtain ⟨index, listed, rfl⟩ := List.mem_map.1 member
    obtain ⟨entry, binding, found, got⟩ := inRange index listed
    obtain ⟨binding', got'⟩ := get_bindRequests_isOk (requests.zip buffers) got
    refine ⟨entry, binding', ?_, ?_⟩
    · rw [context]
      exact found
    · rw [bindings]
      exact got'
  · intro o member b bound
    obtain ⟨r, paired, _⟩ := origin o member b bound
    have fresh := Memory.addBuffers_live s.device.memory (requests.map BufferRequest.size) b
    rw [added] at fresh
    exact (fresh (List.of_mem_zip paired).2).2
  · intro o member o' member' different b b' bound bound'
    obtain ⟨r, paired, rfl⟩ := origin o member b bound
    obtain ⟨r', paired', rfl⟩ := origin o' member' b' bound'
    have seconds : (requests.zip buffers).map Prod.snd = buffers :=
      List.map_snd_zip (Nat.le_of_eq lengths)
    have apart := Memory.addBuffers_ids s.device.memory (requests.map BufferRequest.size)
    rw [added, ← seconds, List.pairwise_map] at apart
    have symmetric : Std.Symm fun a b : BufferRequest × DeviceBuffer => a.2.id ≠ b.2.id :=
      ⟨fun _ _ => Ne.symm⟩
    exact apart.forall paired paired' fun same => different (by rw [(Prod.mk.inj same).1])

/-- An allocation of unbound objects and a release of the same objects leave the usage as it was. -/
theorem alloc_dealloc_restores {batchSize : Nat} {objects : List UInt32} {u : Unit}
    (books : s.Books others) (unbound : ∀ o ∈ objects, bufferOf s o.toNat = none)
    (ran : Op.Yields (alloc batchSize objects) s u t) :
    ∃ freed v, Op.Yields (deallocAll (objects.map UInt32.toNat)) t freed v ∧ usage v = usage s := by
  obtain ⟨freed, v, released, cleared⟩ := deallocAll_released (releasable_of_alloc unbound ran)
  refine ⟨freed, v, released, ?_⟩
  obtain ⟨_, booksAfter⟩ := deallocAll_exact (alloc_exact books ran) released
  obtain ⟨requests, asked, outcome⟩ := alloc_binds ran
  have kept : t.machine.bindings.entries.length = s.machine.bindings.entries.length ∧
      ∀ o, o ∉ objects.map UInt32.toNat → bufferOf t o = bufferOf s o := by
    rcases outcome with ⟨_, rfl⟩ | ⟨buffers, _, _, bindings⟩
    · exact ⟨rfl, fun _ _ => rfl⟩
    rw [bindings]
    refine ⟨bindRequests_length _ _, ?_⟩
    intro o other
    rw [bufferOf, bindings, Bindings.buffer?, bindRequests_others]
    · rfl
    · intro pair member same
      rcases bufferRequests_listed asked pair.1 (List.of_mem_zip member).1 with known | listed
      · cases known
      · exact other (same ▸ listed)
  have same : v.machine.bindings.boundBytes = s.machine.bindings.boundBytes := by
    refine Bindings.boundBytes_congr (cleared.length.trans kept.1) ?_
    intro o
    by_cases listed : o ∈ objects.map UInt32.toNat
    · obtain ⟨index, member, rfl⟩ := List.mem_map.1 listed
      exact (cleared.listed _ listed).trans (unbound index member).symm
    · exact (cleared.others o listed).trans (kept.2 o listed)
  show v.context.memory.usage = s.context.memory.usage
  rw [booksAfter.usage, books.usage, same]

end Offload.Machine
