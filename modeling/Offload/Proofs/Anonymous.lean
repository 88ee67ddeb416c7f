import Offload.Machine.Pass
import Offload.Proofs.Bindings
import Offload.Proofs.Mirrors

/-! Things without the numbers of their handles. A device numbers its buffers, events and binaries in the
order in which they come about, whoever asks for them; what machines do with them does not depend on the
numbers. Each table of a machine behaves the same as any other one that is equal to it up to the
numbers. -/
namespace Offload

def DeviceBuffer.anonymous (b : DeviceBuffer) : DeviceBuffer :=
  { b with id := 0 }

def Binary.anonymous (b : Binary) : Binary :=
  { b with id := 0 }

def KernelArg.anonymous : KernelArg → KernelArg
  | buffer value => buffer value.anonymous
  | other => other

/-- Options that are the same up to a view of their values. -/
theorem map_eq_map_cases {α β : Type} {f : α → β} {a b : Option α} (same : a.map f = b.map f) :
    (a = none ∧ b = none) ∨ ∃ x y, a = some x ∧ b = some y ∧ f x = f y := by
  rcases a with _ | x <;> rcases b with _ | y
  · exact .inl ⟨rfl, rfl⟩
  · cases same
  · cases same
  · exact .inr ⟨x, y, rfl, rfl, Option.some.inj same⟩

/-! ### Errors -/

namespace DeviceError

/-- Errors that differ in the numbers of handles at most. -/
inductive Alike : DeviceError → DeviceError → Prop where
  | same (e : DeviceError) : Alike e e
  | buffer (id id' : BufferId) : Alike (.invalidBuffer id) (.invalidBuffer id')
  | event (id id' : EventId) : Alike (.invalidEvent id) (.invalidEvent id')
  | code (id id' : CodeId) (kernel : String) : Alike (.invalidCode id kernel) (.invalidCode id' kernel)
  | argument (index : Nat) (text : String) {arg arg' : KernelArg} (same : arg.anonymous = arg'.anonymous) :
      Alike (.invalidArgument index (text ++ arg.describe)) (.invalidArgument index (text ++ arg'.describe))

instance : Op.Faults DeviceError where
  alike := Alike
  alike_refl := Alike.same

/-- The device has less memory left than was asked for. -/
instance : Op.Scarce DeviceError Device where
  starved e d := ∃ requested, e = .outOfMemory requested d.memory.available ∧ d.memory.available < requested

instance : Op.Scarce DeviceError (HostObject × Device) where
  starved e s := Op.Scarce.starved e s.2

end DeviceError

namespace MachineError

/-- Errors that differ in the numbers of handles at most. -/
inductive Alike : MachineError → MachineError → Prop where
  | same (e : MachineError) : Alike e e
  | device {e e' : DeviceError} (alike : e.Alike e') : Alike (.device e) (.device e')

instance : Op.Faults MachineError where
  alike := Alike
  alike_refl := Alike.same

/-- The device has less memory left than was asked for. -/
instance : Op.Scarce MachineError Device where
  starved e d := ∃ requested, e = .deviceOutOfMemory requested d.memory.available ∧
    d.memory.available < requested

instance : Op.Scarce MachineError (HostObject × Device) where
  starved e s := Op.Scarce.starved e s.2

instance : Op.Scarce MachineError Session where
  starved e s := Op.Scarce.starved e s.device

/-- A device that is out of memory starves its machine. -/
theorem starved_ofDevice {e : DeviceError} {d : Device} (starved : Op.Scarce.starved e d) :
    Op.Scarce.starved (ofDevice e) d := by
  obtain ⟨requested, rfl, short⟩ := starved
  exact ⟨requested, rfl, short⟩

/-- Alike errors of devices become alike errors of machines. -/
theorem alike_ofDevice {e e' : DeviceError} (alike : Op.Faults.alike e e') :
    Op.Faults.alike (ofDevice e) (ofDevice e') := by
  cases alike with
  | same e => exact .same _
  | buffer id id' => exact .device (.buffer id id')
  | event id id' => exact .device (.event id id')
  | code id id' kernel => exact .device (.code id id' kernel)
  | argument index text same => exact .device (.argument index text same)

/-- To name the task changes nothing about the shortage. -/
theorem starved_forTask {e : MachineError} {s : Session} (task : String) (starved : Op.Scarce.starved e s) :
    Op.Scarce.starved (e.forTask task) s := by
  obtain ⟨requested, rfl, short⟩ := starved
  exact ⟨requested, rfl, short⟩

/-- Alike errors stay alike once the task is named. -/
theorem alike_forTask {e e' : MachineError} (task : String) (alike : Op.Faults.alike e e') :
    Op.Faults.alike (e.forTask task) (e'.forTask task) := by
  cases alike with
  | same e => exact .same _
  | device alike => exact .device alike

end MachineError

/-! ### Event lists -/

namespace EventLists

def anonymous (e : EventLists) : EventLists :=
  { e with lists := e.lists.map fun events => events.map fun _ => 0 }

variable {e e' : EventLists} {index : Nat}

private theorem size_congr (same : e.anonymous = e'.anonymous) : e.lists.length = e'.lists.length := by
  have sizes := congrArg (fun e : EventLists => e.lists.length) same
  simpa [anonymous] using sizes

private theorem capacity_congr (same : e.anonymous = e'.anonymous) : e.capacity = e'.capacity :=
  (congrArg EventLists.capacity same :)

/-- Lists at the same place have the same length. -/
theorem get_congr (same : e.anonymous = e'.anonymous) :
    Op.Paired (fun events events' => events.length = events'.length) (e.get index) (e'.get index) := by
  have lists := congrArg (fun e : EventLists => (e.lists[index]?).map List.length) same
  simp only [anonymous, List.getElem?_map, Option.map_map, Function.comp_def, List.length_map] at lists
  unfold get
  rcases map_eq_map_cases lists with ⟨none, none'⟩ | ⟨events, events', found, found', length⟩
  · rw [none, none', size_congr same]
    exact .error (.same _)
  · rw [found, found']
    exact .ok length

private theorem set_congr {events events' : List EventId} (same : e.anonymous = e'.anonymous)
    (length : events.length = events'.length) :
    ({ e with lists := e.lists.set index events } : EventLists).anonymous =
      ({ e' with lists := e'.lists.set index events' } : EventLists).anonymous := by
  have lists : e.anonymous.lists = e'.anonymous.lists := congrArg EventLists.lists same
  have numbers : (events.map fun _ => (0 : EventId)) = events'.map fun _ => 0 := by
    rw [List.map_const', List.map_const', length]
  simp only [anonymous, List.map_set] at lists ⊢
  rw [capacity_congr same, lists, numbers]

/-- Events are pushed into both lists or into neither. -/
theorem push_congr {event event' : EventId} (same : e.anonymous = e'.anonymous) :
    Op.Paired (fun after after' => after.anonymous = after'.anonymous) (e.push index event)
      (e'.push index event') := by
  refine Op.paired_bind (get_congr same) fun events events' length => ?_
  by_cases full : e.capacity ≤ events.length
  · have full' : e'.capacity ≤ events'.length := by rwa [← capacity_congr same, ← length]
    rw [if_pos full, if_pos full', capacity_congr same]
    exact .error (.same _)
  · have room : ¬ e'.capacity ≤ events'.length := by rwa [← capacity_congr same, ← length]
    rw [if_neg full, if_neg room]
    refine .ok (set_congr same ?_)
    rw [List.length_append, List.length_append, length]
    rfl

/-- Both lists are reset or neither is. -/
theorem reset_congr (same : e.anonymous = e'.anonymous) (list : Option Nat) :
    Op.Paired (fun after after' => after.anonymous = after'.anonymous) (e.reset list) (e'.reset list) := by
  cases list with
  | none => exact .ok same
  | some index => exact Op.paired_bind (get_congr same) fun _ _ _ => .ok (set_congr same rfl)

/-- The same lists can be waited for. -/
theorem waitList_congr (same : e.anonymous = e'.anonymous) (list : Option Nat) (useDependencies : Bool) :
    Op.Paired (fun _ _ => True) (e.waitList list useDependencies) (e'.waitList list useDependencies) := by
  cases list with
  | none => exact .ok trivial
  | some index =>
    cases useDependencies with
    | true => exact (get_congr same).weaken fun _ _ _ => trivial
    | false => exact .ok trivial

theorem resetAll_congr (same : e.anonymous = e'.anonymous) :
    e.resetAll.anonymous = e'.resetAll.anonymous := by
  simp only [anonymous, resetAll, List.map_const', List.map_replicate, size_congr same, capacity_congr same]

end EventLists

/-! ### Bindings -/

def Binding.anonymous (b : Binding) : Binding :=
  { b with buffer := b.buffer.map DeviceBuffer.anonymous }

namespace Bindings

def anonymous (bs : Bindings) : Bindings :=
  ⟨bs.entries.map Binding.anonymous⟩

variable {bs bs' : Bindings} {object : Nat}

/-- The same objects have entries. -/
theorem entry_congr (same : bs.anonymous = bs'.anonymous) (object : Nat) :
    (bs.entries[object]?).map Binding.anonymous = (bs'.entries[object]?).map Binding.anonymous := by
  have entries := congrArg (fun bs : Bindings => bs.entries[object]?) same
  simpa only [anonymous, List.getElem?_map] using entries

/-- The same objects are found. -/
theorem get_congr (same : bs.anonymous = bs'.anonymous) (object : Nat) :
    Op.Paired (fun b b' => b.anonymous = b'.anonymous) (bs.get object) (bs'.get object) := by
  unfold get
  rcases map_eq_map_cases (entry_congr same object) with ⟨none, none'⟩ | ⟨b, b', found, found', alike⟩
  · rw [none, none']
    exact .error (.same _)
  · rw [found, found']
    exact .ok alike

theorem isBound_congr {b b' : Binding} (same : b.anonymous = b'.anonymous) : b.isBound = b'.isBound := by
  have buffers := congrArg Binding.isBound same
  simpa [Binding.isBound, Binding.anonymous] using buffers

/-- Bindings that go alike are changed alike. -/
theorem modify_congr {change change' : Binding → Binding} (same : bs.anonymous = bs'.anonymous)
    (step : ∀ b b', b.anonymous = b'.anonymous → (change b).anonymous = (change' b').anonymous) :
    (bs.modify object change).anonymous = (bs'.modify object change').anonymous := by
  refine congrArg Bindings.mk (List.ext_getElem? fun other => ?_)
  have entries := entry_congr same other
  simp only [List.getElem?_map, entries_modify]
  split
  · rcases map_eq_map_cases entries with ⟨none, none'⟩ | ⟨b, b', found, found', alike⟩
    · rw [none, none']
      rfl
    · rw [found, found']
      exact congrArg some (step b b' alike)
  · exact entries

theorem unbindAll_congr (same : bs.anonymous = bs'.anonymous) :
    bs.unbindAll.anonymous = bs'.unbindAll.anonymous := by
  have blind (bs : Bindings) : bs.unbindAll.anonymous = bs.anonymous.unbindAll := by
    simp only [unbindAll, anonymous, List.map_map]
    rfl
  rw [blind, blind, same]

private theorem boundBytes_anonymous (bs : Bindings) : bs.anonymous.boundBytes = bs.boundBytes := by
  unfold boundBytes anonymous
  rw [List.map_map]
  refine congrArg List.sum (List.map_congr_left fun b _ => ?_)
  rcases b with ⟨_ | buffer, _, _⟩ <;> rfl

theorem boundBytes_congr_anonymous (same : bs.anonymous = bs'.anonymous) : bs.boundBytes = bs'.boundBytes := by
  rw [← boundBytes_anonymous bs, same, boundBytes_anonymous]

private theorem bound_anonymous (bs : Bindings) : bs.anonymous.bound.map (·.1) = bs.bound.map (·.1) := by
  unfold bound anonymous
  rw [List.zipIdx_map, List.filterMap_map, List.map_filterMap, List.map_filterMap]
  congr 1
  funext entry
  obtain ⟨⟨_ | buffer, _, _⟩, _⟩ := entry <;> rfl

/-- The same objects are bound. -/
theorem bound_congr (same : bs.anonymous = bs'.anonymous) :
    bs.bound.map (·.1) = bs'.bound.map (·.1) := by
  rw [← bound_anonymous bs, same, bound_anonymous]

end Bindings

/-! ### Binaries -/

def CacheSlot.anonymous (s : CacheSlot) : CacheSlot :=
  { s with binary := s.binary.map Binary.anonymous }

namespace CodeCache

def anonymous (c : CodeCache) : CodeCache :=
  { c with slots := c.slots.map CacheSlot.anonymous }

variable {c c' : CodeCache} {task threads : Nat} {stores : Bool}

private theorem slot_anonymous (c : CodeCache) (task : Nat) : c.anonymous.slot task = (c.slot task).anonymous := by
  unfold slot anonymous
  rw [List.getElem?_map]
  rcases c.slots[task]? with _ | s <;> rfl

/-- Code is had from the same slots. -/
theorem code_anonymous (c : CodeCache) (task : Nat) :
    c.anonymous.code task = (c.code task).map Binary.anonymous := by
  rw [code, slot_anonymous, code]
  rcases c.slot task with ⟨_ | binary, _, _, _, _⟩
  · rfl
  · simp only [CacheSlot.code, CacheSlot.anonymous, Option.map_some, Option.filter_some]
    show (if binary.valid then _ else _) = _
    split <;> rfl

private theorem isSome_code (s : CacheSlot) : s.anonymous.code.isSome = s.code.isSome := by
  rcases s with ⟨_ | binary, _, _, _, _⟩
  · rfl
  · simp only [CacheSlot.code, CacheSlot.anonymous, Option.map_some, Option.filter_some]
    show Option.isSome (if binary.valid then _ else _) = _
    split <;> rfl

/-- The same tasks need code. -/
theorem needsCompile_congr (same : c.anonymous = c'.anonymous) (task : Nat) :
    c.needsCompile task = c'.needsCompile task := by
  have needs (c : CodeCache) : c.anonymous.needsCompile task = c.needsCompile task := by
    unfold needsCompile CacheSlot.needsCompile
    rw [slot_anonymous, ← Option.not_isSome, ← Option.not_isSome, isSome_code]
  rw [← needs c, same, needs]

/-- The same code is requested. -/
theorem request_congr (same : c.anonymous = c'.anonymous) (index : Nat) (task : Task) (grid : Option Grid) :
    c.request index task grid = c'.request index task grid := by
  have blind (c : CodeCache) : c.anonymous.request index task grid = c.request index task grid := by
    simp only [request, slot_anonymous]
    rfl
  rw [← blind c, same, blind]

private theorem prepare_anonymous (c : CodeCache) (task threads : Nat) (stores : Bool) :
    c.anonymous.prepare task threads stores =
      ((c.prepare task threads stores).1, (c.prepare task threads stores).2.anonymous) := by
  unfold prepare
  have slots : c.anonymous.slots[task]? = (c.slots[task]?).map CacheSlot.anonymous := List.getElem?_map
  rw [slots]
  rcases c.slots[task]? with _ | s
  · rfl
  have needed : s.anonymous.recompilationNeeded threads stores = s.recompilationNeeded threads stores := by
    unfold CacheSlot.recompilationNeeded
    rw [isSome_code]
    rfl
  simp only [Option.map_some, needed]
  split
  · refine Prod.ext rfl (congrArg (CodeCache.mk · _) ?_)
    simp only [anonymous, List.map_set]
    congr 1
    rcases s with ⟨_ | binary, _, _, _, _⟩ <;> rfl
  · refine Prod.ext rfl (congrArg (CodeCache.mk · _) ?_)
    simp only [anonymous, List.map_set]
    rfl

/-- The same launches trigger a recompilation. -/
theorem prepare_congr (same : c.anonymous = c'.anonymous) (task threads : Nat) (stores : Bool) :
    (c.prepare task threads stores).1 = (c'.prepare task threads stores).1 ∧
      (c.prepare task threads stores).2.anonymous = (c'.prepare task threads stores).2.anonymous := by
  have both := prepare_anonymous c task threads stores
  rw [same, prepare_anonymous] at both
  exact ⟨(congrArg Prod.fst both).symm, (congrArg Prod.snd both).symm⟩

private theorem install_anonymous (c : CodeCache) (task : Nat) (code : Binary) (stores : Bool) :
    (c.install task code stores).anonymous = c.anonymous.install task code.anonymous stores := by
  refine congrArg (CodeCache.mk · _) (List.ext_getElem? fun other => ?_)
  simp only [anonymous, install, List.getElem?_map, List.getElem?_modify]
  split <;> rcases c.slots[other]? with _ | s <;> rfl

/-- Code that differs in its number is installed alike. -/
theorem install_congr {code code' : Binary} (same : c.anonymous = c'.anonymous)
    (built : code.anonymous = code'.anonymous) :
    (c.install task code stores).anonymous = (c'.install task code' stores).anonymous := by
  rw [install_anonymous, install_anonymous, same, built]

theorem clear_congr (same : c.anonymous = c'.anonymous) : c.clear.anonymous = c'.clear.anonymous := by
  have blind (c : CodeCache) : c.clear.anonymous = c.anonymous.clear := by
    simp only [clear, anonymous, List.map_map]
    rfl
  rw [blind, blind, same]

end CodeCache

/-! ### Machines -/

namespace Machine

/-- A machine without the numbers of its handles and without its measurements. Frames are emptied before
they are used again. -/
def anonymous (m : Machine) : Machine :=
  { m with
    lists := m.lists.anonymous
    bindings := m.bindings.anonymous
    cache := m.cache.anonymous
    frames := {}
    profiler := .create m.profiler.isEnabled }

/-- Machines that differ in the numbers of their handles and in what they measured at most. -/
def Kin (m m' : Machine) : Prop :=
  m.anonymous = m'.anonymous

namespace Kin

variable {m m' : Machine} (alike : m.Kin m')
include alike

theorem program : m.program = m'.program := (congrArg Machine.program alike :)

theorem info : m.info = m'.info := (congrArg Machine.info alike :)

theorem epoch : m.epoch = m'.epoch := (congrArg Machine.epoch alike :)

theorem config : m.config = m'.config := (congrArg Machine.config alike :)

theorem schedule : m.schedule = m'.schedule := (congrArg Machine.schedule alike :)

theorem finishedWarmup : m.finishedWarmup = m'.finishedWarmup := (congrArg Machine.finishedWarmup alike :)

theorem lists : m.lists.anonymous = m'.lists.anonymous := (congrArg Machine.lists alike :)

theorem bindings : m.bindings.anonymous = m'.bindings.anonymous := (congrArg Machine.bindings alike :)

theorem cache : m.cache.anonymous = m'.cache.anonymous := (congrArg Machine.cache alike :)

theorem isEnabled : m.profiler.isEnabled = m'.profiler.isEnabled := by
  have enabled (p : Profiler) : (Profiler.create p.isEnabled).isEnabled = p.isEnabled := by
    cases p <;> rfl
  rw [← enabled m.profiler, ← enabled m'.profiler]
  exact (congrArg (fun m : Machine => m.profiler.isEnabled) alike :)

/-- A change that is not about handles. -/
theorem change (f : Machine → Machine) (blind : ∀ m, (f m).anonymous = f m.anonymous) : (f m).Kin (f m') := by
  rw [Kin, blind, blind, alike]

theorem setLists {l l' : EventLists} (same : l.anonymous = l'.anonymous) :
    Kin { m with lists := l } { m' with lists := l' } := by
  show ({ m.anonymous with lists := l.anonymous } : Machine) = { m'.anonymous with lists := l'.anonymous }
  rw [alike, same]

theorem setBindings {bs bs' : Bindings} (same : bs.anonymous = bs'.anonymous) :
    Kin { m with bindings := bs } { m' with bindings := bs' } := by
  show ({ m.anonymous with bindings := bs.anonymous } : Machine) = { m'.anonymous with bindings := bs'.anonymous }
  rw [alike, same]

theorem setCache {c c' : CodeCache} (same : c.anonymous = c'.anonymous) :
    Kin { m with cache := c } { m' with cache := c' } := by
  show ({ m.anonymous with cache := c.anonymous } : Machine) = { m'.anonymous with cache := c'.anonymous }
  rw [alike, same]

theorem setFrames (frames frames' : Table UInt32 (List KernelArg)) :
    Kin { m with frames } { m' with frames := frames' } := alike

theorem setProfiler {p p' : Profiler} (same : p.isEnabled = p'.isEnabled) :
    Kin { m with profiler := p } { m' with profiler := p' } := by
  show ({ m.anonymous with profiler := .create p.isEnabled } : Machine) =
    { m'.anonymous with profiler := .create p'.isEnabled }
  rw [alike, same]

end Kin
end Machine

end Offload
