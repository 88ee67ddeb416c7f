import Offload.Device.Basic
import Offload.Proofs.Memory

/-! The work of a device, change by change. Every operation of a device is made of changes of a few kinds, also where
it fails half-way. A relation that tolerates these kinds tolerates the operation, whatever it is asked for. -/
namespace Offload

/-- More is counted, or as much, but no copies. -/
structure DeviceCounters.Grows (before after : DeviceCounters) : Prop where
  copiesIn : after.copiesIn = before.copiesIn
  bytesIn : after.bytesIn = before.bytesIn
  copiesOut : after.copiesOut = before.copiesOut
  bytesOut : after.bytesOut = before.bytesOut
  deviceWork : before.deviceWork ≤ after.deviceWork

namespace Device

/-- The kinds of changes that the work of a device is made of. -/
inductive ChangeKind where
  | load
  | add
  | free
  | vacate
  | renew
  | write
  | report
  | record
  | drain
  | complete
  | mark
  | install
  | count
  | countIn
  | countOut
  | reset
  | kernels
  deriving DecidableEq

/-- One change of a device. -/
inductive Change : ChangeKind → Device → Device → Prop where
  | load (d : Device) : Change .load d { d with loaded := true }
  | add {d : Device} {size : Nat} (room : size ≤ d.memory.available) :
      Change .add d { d with memory := (d.memory.addBuffer size).2 }
  | free {d : Device} {id : BufferId} {size : Nat} {memory : Memory}
      (ran : d.memory.free id = .ok (size, memory)) : Change .free d { d with memory }
  /-- The buffer for atomics is given back, because it is too small. It is still remembered. -/
  | vacate {d : Device} {b : DeviceBuffer} {size : Nat} {memory : Memory} (remembered : d.atomics = some b)
      (ran : d.memory.free b.id = .ok (size, memory)) : Change .vacate d { d with memory }
  | renew {d : Device} {size : Nat} (room : size ≤ d.memory.available) :
      Change .renew d { d with
        memory := (d.memory.addBuffer size).2
        atomics := some (d.memory.addBuffer size).1 }
  | write {d : Device} {id : BufferId} {data : Bytes} {memory : Memory}
      (ran : d.memory.write id data = .ok memory) : Change .write d { d with memory }
  | report (d : Device) (reports : List KernelReport) : Change .report d { d with reports := d.reports ++ reports }
  | record {d : Device} {kind : EventKind} {wait : List EventId} {id : EventId} {events : EventTable}
      (ran : d.events.record kind wait = .ok (id, events)) : Change .record d { d with events }
  | drain {d : Device} {id : EventId} {events : EventTable} (ran : d.events.drain id = .ok events) :
      Change .drain d { d with events }
  | complete {d : Device} {id : EventId} {events : EventTable} (ran : d.events.complete id = .ok events) :
      Change .complete d { d with events }
  | mark {d : Device} {wait : List EventId} {entry : EventId × List EventId} {events : EventTable}
      (ran : d.events.marker wait = .ok (entry, events)) :
      Change .mark d { d with
        events
        counters := { d.counters with markers := d.counters.markers + 1 }
        markerLog := logMarker d.markerLog entry }
  | install (d : Device) (record : CompileRecord) :
      Change .install d { d with nextCode := d.nextCode + 1, compileLog := d.compileLog ++ [record] }
  | count {d : Device} {counters : DeviceCounters} (grows : d.counters.Grows counters) :
      Change .count d { d with counters }
  | countIn (d : Device) (bytes : Nat) :
      Change .countIn d { d with
        counters := { d.counters with copiesIn := d.counters.copiesIn + 1, bytesIn := d.counters.bytesIn + bytes } }
  | countOut (d : Device) (bytes : Nat) :
      Change .countOut d { d with
        counters := { d.counters with copiesOut := d.counters.copiesOut + 1, bytesOut := d.counters.bytesOut + bytes } }
  | reset (d : Device) :
      Change .reset d { d with
        memory := d.memory.clear
        events := d.events.clear
        markerLog := []
        atomics := none
        epoch := d.epoch + 1 }
  | register (d : Device) (name : String) (kernel : Kernel) : Change .kernels d (d.registerKernel name kernel)
  | refuse (d : Device) (name : String) : Change .kernels d (d.failCompilationOf name)

/-- Changes of these kinds only, one after another. -/
def ChangesOnly (kinds : List ChangeKind) : Device → Device → Prop :=
  Relation.ReflTransGen fun d d' => ∃ kind ∈ kinds, Change kind d d'

variable {α : Type} {d d' : Device} {kind : ChangeKind} {kinds more barred : List ChangeKind}
  {R : Device → Device → Prop}

instance : Op.Transition (ChangesOnly kinds) where
  refl _ := .refl
  trans := .trans

/-- One change is a change of its kind. -/
theorem Change.only (change : Change kind d d') (member : kind ∈ kinds) : ChangesOnly kinds d d' :=
  .single ⟨kind, member, change⟩

/-- More kinds allow the same changes. -/
theorem ChangesOnly.weaken (changes : ChangesOnly kinds d d') (among : ∀ kind ∈ kinds, kind ∈ more) :
    ChangesOnly more d d' :=
  Relation.ReflTransGen.mono (fun _ _ ⟨kind, member, change⟩ => ⟨kind, among kind member, change⟩) d d' changes

/-- The relation tolerates every change, but for those of the kinds that are barred. -/
class Tolerates (barred : outParam (List ChangeKind)) (R : Device → Device → Prop) : Prop where
  change : ∀ {kind d d'}, kind ∉ barred → Change kind d d' → R d d'

/-- A relation that tolerates these kinds of changes holds across all of them. -/
theorem ChangesOnly.within [Op.Transition R] [Tolerates barred R] (changes : ChangesOnly kinds d d')
    (allowed : ∀ kind ∈ kinds, kind ∉ barred) : R d d' := by
  induction changes with
  | refl => exact Op.Transition.refl d
  | tail _ last ih =>
    obtain ⟨kind, member, change⟩ := last
    exact Op.Transition.trans ih (Tolerates.change (allowed kind member) change)

private theorem moves_among {op : DeviceOp α} (only : Op.Moves op (ChangesOnly kinds))
    (among : ∀ kind ∈ kinds, kind ∈ more) : Op.Moves op (ChangesOnly more) :=
  fun d => (only d).weaken among

/-- What makes only changes that a relation tolerates is tolerated. -/
theorem moves_within [Op.Transition R] [Tolerates barred R] {op : DeviceOp α}
    (only : Op.Moves op (ChangesOnly kinds)) (allowed : ∀ kind ∈ kinds, kind ∉ barred) : Op.Moves op R :=
  fun d => (only d).within allowed

/-! ### Single steps -/

/-- A step of the memory is taken, or it fails and nothing happens. -/
theorem onMemory_run (change : Memory → Except DeviceError (α × Memory)) (d : Device) :
    onMemory change d = match change d.memory with
      | .error e => ⟨.error e, d, []⟩
      | .ok (a, memory) => ⟨.ok a, { d with memory }, []⟩ := by
  simp only [onMemory, Op.step]
  rcases change d.memory with e | ⟨a, m⟩ <;> rfl

/-- A step of the event table changes nothing else on the device. -/
theorem onEvents_run (change : EventTable → Except DeviceError (α × EventTable)) (d : Device) :
    onEvents change d = match change d.events with
      | .error e => ⟨.error e, d, []⟩
      | .ok (a, events) => ⟨.ok a, { d with events }, []⟩ := by
  simp only [onEvents, Op.step]
  rcases change d.events with e | ⟨a, t⟩ <;> rfl

private theorem moves_onMemory [Op.Transition R] {change : Memory → Except DeviceError (α × Memory)}
    (allowed : ∀ d a memory, change d.memory = .ok (a, memory) → R d { d with memory }) :
    Op.Moves (onMemory change) R := by
  intro d
  rw [onMemory_run]
  rcases changed : change d.memory with e | ⟨a, memory⟩
  · exact Op.Transition.refl d
  · exact allowed d a memory changed

/-- A step of the event table moves the device by what it moves the table by. -/
theorem moves_onEvents [Op.Transition R] {change : EventTable → Except DeviceError (α × EventTable)}
    (allowed : ∀ d a events, change d.events = .ok (a, events) → R d { d with events }) :
    Op.Moves (onEvents change) R := by
  intro d
  rw [onEvents_run]
  rcases changed : change d.events with e | ⟨a, events⟩
  · exact Op.Transition.refl d
  · exact allowed d a events changed

/-- What the relation says of devices that differ in their memories only. -/
def OfMemory (R : Device → Device → Prop) (d : Device) (before after : Memory) : Prop :=
  R { d with memory := before } { d with memory := after }

instance [Op.Transition R] : Op.Transition (OfMemory R d) where
  refl _ := Op.Transition.refl (R := R) _
  trans first second := Op.Transition.trans (R := R) first second

/-- A write changes the bytes of one buffer. -/
theorem only_writeBuffer (id : BufferId) (data : Bytes) : Op.Moves (writeBuffer id data) (ChangesOnly [.write]) := by
  refine moves_onMemory fun d a memory ran => ?_
  rcases written : d.memory.write id data with e | memory' <;> rw [written] at ran <;> cases ran
  exact (Change.write written).only (by decide)

theorem only_reserve (sizes : List Nat) : Op.Moves (onMemory fun m => m.allocate sizes) (ChangesOnly [.add]) :=
  moves_onMemory fun d _ _ ran => Memory.moves_allocate (R := OfMemory (ChangesOnly [.add]) d)
    (fun {m _} room => Change.only (.add (d := { d with memory := m }) room) (by decide)) ran

private theorem only_free (id : BufferId) : Op.Moves (onMemory fun m => m.free id) (ChangesOnly [.free]) :=
  moves_onMemory fun _ _ _ ran => (Change.free ran).only (by decide)

/-- To record an event changes the event table only. -/
theorem only_recordEvent (kind : EventKind) (wait : List EventId) :
    Op.Moves (recordEvent kind wait) (ChangesOnly [.record]) :=
  moves_onEvents fun _ _ _ ran => (Change.record ran).only (by decide)

private theorem only_drainAll (events : List EventId) : Op.Moves (drainAll events) (ChangesOnly [.drain]) := by
  induction events with
  | nil => exact Op.moves_pure _
  | cons id rest ih =>
    refine Op.moves_bind (moves_onEvents fun d a events ran => ?_) fun _ => ih
    rcases drained : d.events.drain id with e | events' <;> rw [drained] at ran <;> cases ran
    exact (Change.drain drained).only (by decide)

/-- A count that has nothing to do with copies. -/
theorem moves_count (member : .count ∈ kinds) {change : DeviceCounters → DeviceCounters}
    (grows : ∀ c : DeviceCounters, c.Grows (change c)) : Op.Moves (count change) (ChangesOnly kinds) :=
  Op.moves_modify fun d => (Change.count (grows d.counters)).only member

/-! ### Operations -/

/-- To load a device changes that only, and counts it. -/
theorem only_ensureLoaded : Op.Moves ensureLoaded (ChangesOnly [.load, .count]) := by
  refine Op.moves_bind Op.moves_get fun d => Op.moves_ite (Op.moves_pure _) ?_
  refine Op.moves_bind (Op.moves_modify fun d => (Change.load d).only (by decide)) fun _ => ?_
  exact Op.moves_bind (moves_count (by decide) fun _ => ⟨rfl, rfl, rfl, rfl, Nat.le_refl _⟩) fun _ => Op.moves_emit _

/-- A reset is one change, counted. -/
theorem only_reset : Op.Moves reset (ChangesOnly [.reset, .count]) := by
  intro d
  have counted : Op.Moves (count fun c => { c with resets := c.resets + 1 }) (ChangesOnly [.reset, .count]) :=
    moves_count (by decide) fun _ => ⟨rfl, rfl, rfl, rfl, Nat.le_refl _⟩
  exact Op.Transition.trans (R := ChangesOnly [.reset, .count]) ((Change.reset d).only (by decide)) (counted _)

/-- An allocation adds buffers and is counted. -/
theorem only_allocate (sizes : List Nat) : Op.Moves (allocate sizes) (ChangesOnly [.add, .count]) := by
  refine Op.moves_bind (moves_among (only_reserve _) (by decide)) fun buffers => ?_
  refine Op.moves_bind (moves_count (by decide) fun c => ⟨rfl, rfl, rfl, rfl, ?_⟩) fun _ => ?_
  · simp only [DeviceCounters.deviceWork]
    omega
  · exact Op.moves_bind (Op.moves_emit _) fun _ => Op.moves_pure _

/-- A release takes a buffer away and is counted. -/
theorem only_deallocate (buffer : DeviceBuffer) : Op.Moves (deallocate buffer) (ChangesOnly [.free, .count]) := by
  refine Op.moves_bind (moves_among (only_free _) (by decide)) fun _ => ?_
  refine Op.moves_bind (moves_count (by decide) fun c => ⟨rfl, rfl, rfl, rfl, ?_⟩) fun _ => Op.moves_pure _
  simp only [DeviceCounters.deviceWork]
  omega

/-- A copy to the device writes, records and counts what went in. -/
theorem only_streamIn (object : HostObject) (buffer : DeviceBuffer) (range : HostRange) (wait : List EventId) :
    Op.Moves (streamIn object buffer range wait) (ChangesOnly [.write, .record, .countIn]) := by
  refine Op.moves_bind (Op.moves_ofExcept _) fun data => ?_
  refine Op.moves_bind (moves_among (only_writeBuffer _ _) (by decide)) fun _ => ?_
  refine Op.moves_bind (moves_among (only_recordEvent _ _) (by decide)) fun event => ?_
  refine Op.moves_bind (Op.moves_modify fun d => (Change.countIn d range.size).only (by decide)) fun _ => ?_
  exact Op.moves_bind (Op.moves_emit _) fun _ => Op.moves_pure _

/-- A wait drains the event table and is counted. -/
theorem only_waitEvents (events : List EventId) : Op.Moves (waitEvents events) (ChangesOnly [.drain, .count]) :=
  Op.moves_bind (moves_among (only_drainAll events) (by decide)) fun _ =>
    moves_count (by decide) fun _ => ⟨rfl, rfl, rfl, rfl, Nat.le_refl _⟩

/-- The device of a copy to the host; the host object is not looked at. -/
def OfCopy (R : Device → Device → Prop) (before after : HostObject × Device) : Prop :=
  R before.2 after.2

instance [Op.Transition R] : Op.Transition (OfCopy R) where
  refl s := Op.Transition.refl s.2
  trans first second := Op.Transition.trans (R := R) first second

/-- What the device does in a copy moves the device of the copy. -/
theorem ofCopy_onDevice {op : DeviceOp α} (moves : Op.Moves op R) : Op.Moves (onDevice op) (OfCopy R) :=
  Op.moves_onPart moves fun _ _ related => related

/-- A copy to the host records and counts what went out; the memory stays. -/
theorem only_streamOut (buffer : DeviceBuffer) (range : HostRange) (wait : List EventId) :
    Op.Moves (streamOut buffer range wait) (OfCopy (ChangesOnly [.record, .countOut])) := by
  refine Op.moves_bind Op.moves_get fun s => Op.moves_bind (Op.moves_ofExcept _) fun data => ?_
  refine Op.moves_bind (Op.moves_step fun x a y ran => ?_) fun _ => ?_
  · rcases written : x.1.writeRange range.offset data with e | object <;> rw [written] at ran <;> cases ran
    exact .refl
  · refine ofCopy_onDevice (Op.moves_bind (moves_among (only_recordEvent _ _) (by decide)) fun event => ?_)
    refine Op.moves_bind (Op.moves_modify fun d => (Change.countOut d range.size).only (by decide)) fun _ => ?_
    exact Op.moves_bind (Op.moves_emit _) fun _ => Op.moves_pure _

/-- A copy to the host that is waited for drains the event table besides. -/
theorem only_streamOutBlocking (buffer : DeviceBuffer) (range : HostRange) (wait : List EventId) :
    Op.Moves (streamOutBlocking buffer range wait) (OfCopy (ChangesOnly [.record, .countOut, .drain, .count])) := by
  refine Op.moves_bind (fun s => (only_streamOut _ _ _ s).weaken (by decide)) fun event => ?_
  refine Op.moves_bind (ofCopy_onDevice ?_) fun _ => Op.moves_pure _
  exact moves_among (only_waitEvents _) (by decide)

/-- A compilation installs a binary and is counted. -/
theorem only_installCode (request : CompileRequest) :
    Op.Moves (installCode request) (ChangesOnly [.install, .count]) := by
  refine Op.moves_bind Op.moves_get fun d => Op.moves_bind (Op.moves_ofExcept _) fun _ => ?_
  refine Op.moves_bind (Op.moves_modify fun d => (Change.install d _).only (by decide)) fun _ => ?_
  refine Op.moves_bind (moves_count (by decide) fun _ => ⟨rfl, rfl, rfl, rfl, Nat.le_refl _⟩) fun _ => ?_
  exact Op.moves_bind (Op.moves_emit _) fun _ => Op.moves_pure _

/-- A new atomics buffer takes the next number, if there is room for it. -/
theorem newAtomics_run (size : Nat) (d : Device) :
    newAtomics size d =
      if d.memory.available < size then ⟨.error (.outOfMemory size d.memory.available), d, []⟩
      else ⟨.ok ⟨d.memory.nextId, size⟩,
        { d with memory := (d.memory.addBuffer size).2, atomics := some ⟨d.memory.nextId, size⟩ },
        []⟩ := by
  unfold newAtomics
  rw [Op.bind_run, onMemory_run, Memory.reserve]
  by_cases short : d.memory.available < size
  · rw [if_pos short, if_pos short]
    rfl
  · rw [if_neg short, if_neg short]
    rfl

private theorem only_newAtomics (size : Nat) : Op.Moves (newAtomics size) (ChangesOnly [.renew]) := by
  intro d
  rw [newAtomics_run]
  split
  · exact .refl
  · next room => exact (Change.renew (Nat.not_lt.1 room)).only (by decide)

/-- The atomics buffer is given up and renewed, or it stays. -/
theorem only_atomicsBuffer (size : Nat) : Op.Moves (atomicsBuffer size) (ChangesOnly [.vacate, .renew]) := by
  have renewed : Op.Moves (newAtomics size) (ChangesOnly [.vacate, .renew]) :=
    moves_among (only_newAtomics size) (by decide)
  intro d
  unfold atomicsBuffer
  rw [Op.get_bind]
  rcases remembered : d.atomics with _ | existing
  · exact renewed d
  dsimp only
  split
  · exact .refl
  rw [Op.bind_run, onMemory_run]
  rcases freed : d.memory.free existing.id with e | ⟨size', memory⟩
  · exact .refl
  · have vacated : ChangesOnly [.vacate, .renew] d { d with memory } :=
      (Change.vacate remembered freed).only (by decide)
    exact Op.Transition.trans vacated (renewed _)

/-- Atomics may renew their buffer, and then they are written as other data is. -/
theorem only_writeAtomics (values : List Int32) (wait : List EventId) :
    Op.Moves (writeAtomics values wait) (ChangesOnly [.vacate, .renew, .write, .record, .count]) := by
  refine Op.moves_bind (moves_among (only_atomicsBuffer _) (by decide)) fun buffer => ?_
  refine Op.moves_bind (moves_among (only_writeBuffer _ _) (by decide)) fun _ => ?_
  refine Op.moves_bind (moves_among (only_recordEvent _ _) (by decide)) fun event => ?_
  refine Op.moves_bind (moves_count (by decide) fun c => ⟨rfl, rfl, rfl, rfl, ?_⟩) fun _ => Op.moves_pure _
  simp only [DeviceCounters.deviceWork]
  omega

/-- A kernel writes and reports. -/
theorem only_runKernel (kernel : Kernel) (v : Invocation) :
    Op.Moves (runKernel kernel v) (ChangesOnly [.write, .report]) := by
  intro d
  have written := Memory.moves_run (R := OfMemory (ChangesOnly [.write, .report]) d)
    (fun {m _ _ _} ran => Change.only (.write (d := { d with memory := m }) ran) (by decide)) v (kernel v) d.memory
  unfold runKernel
  rcases ran : (kernel v).run v d.memory with ⟨result, memory, reports⟩
  rw [ran] at written
  exact Op.Transition.trans (R := ChangesOnly [.write, .report]) written
    ((Change.report { d with memory } reports).only (by decide))

/-- A launch writes and reports as its kernel does, records its event and is counted. -/
theorem only_launch (code : Binary) (frame : List KernelArg) (atomics : Option DeviceBuffer) (grid : Grid)
    (offset : Nat) (wait : List EventId) :
    Op.Moves (launch code frame atomics grid offset wait) (ChangesOnly [.write, .report, .record, .count]) := by
  refine Op.moves_bind Op.moves_get fun d => Op.moves_bind (Op.moves_ofExcept _) fun kernel => ?_
  refine Op.moves_bind (Op.moves_ofExcept _) fun threads => ?_
  refine Op.moves_bind (moves_among (only_runKernel _ _) (by decide)) fun _ => ?_
  refine Op.moves_bind (moves_among (only_recordEvent _ _) (by decide)) fun event => ?_
  refine Op.moves_bind (moves_count (by decide) fun c => ⟨rfl, rfl, rfl, rfl, ?_⟩) fun _ => ?_
  · simp only [DeviceCounters.deviceWork]
    omega
  · exact Op.moves_bind (Op.moves_emit _) fun _ => Op.moves_pure _

/-- A marker is a change of the event table. -/
theorem only_enqueueMarker (wait : List EventId) : Op.Moves (enqueueMarker wait) (ChangesOnly [.mark]) := by
  intro d
  unfold enqueueMarker
  rw [Op.bind_run, onEvents_run]
  rcases made : d.events.marker wait with e | ⟨entry, events⟩
  · exact .refl
  · exact (Change.mark made).only (by decide)

private theorem only_resolveEvent (id : EventId) : Op.Moves (resolveEvent id) (ChangesOnly []) :=
  Op.moves_bind Op.moves_get fun _ => Op.moves_ofExcept _

/-- A completion is a change of the event table. -/
theorem only_completeEvent (id : EventId) : Op.Moves (completeEvent id) (ChangesOnly [.complete]) := by
  refine moves_onEvents fun d a events ran => ?_
  rcases completed : d.events.complete id with e | events' <;> rw [completed] at ran <;> cases ran
  exact (Change.complete completed).only (by decide)

/-- A flush is counted. -/
theorem only_flush : Op.Moves flush (ChangesOnly [.count]) :=
  moves_count (by decide) fun _ => ⟨rfl, rfl, rfl, rfl, Nat.le_refl _⟩

/-! ### What a machine asks its device for -/

/-- The relation survives what has to do with events only: measurements, barriers and the ends of passes. -/
class SurvivesEvents (D : Device → Device → Prop) : Prop where
  waitEvents : ∀ events, Op.Moves (waitEvents events) D
  resolveEvent : ∀ event, Op.Moves (resolveEvent event) D
  enqueueMarker : ∀ wait, Op.Moves (enqueueMarker wait) D
  flush : Op.Moves flush D

/-- The relation survives what launches ask a device for. -/
class SurvivesLaunches (D : Device → Device → Prop) : Prop extends SurvivesEvents D where
  installCode : ∀ request, Op.Moves (installCode request) D
  writeAtomics : ∀ values wait, Op.Moves (writeAtomics values wait) D
  launch : ∀ code frame atomics grid offset wait, Op.Moves (launch code frame atomics grid offset wait) D

/-- The relation survives every operation that a machine asks its device for. -/
class Survives (D : Device → Device → Prop) : Prop extends SurvivesLaunches D where
  allocate : ∀ sizes, Op.Moves (allocate sizes) D
  deallocate : ∀ buffer, Op.Moves (deallocate buffer) D
  streamIn : ∀ object buffer range wait, Op.Moves (streamIn object buffer range wait) D
  streamOut : ∀ buffer range wait, Op.Moves (streamOut buffer range wait) fun x y => D x.2 y.2
  streamOutBlocking : ∀ buffer range wait, Op.Moves (streamOutBlocking buffer range wait) fun x y => D x.2 y.2

variable {D D' : Device → Device → Prop}

/-- A weaker relation survives as much. -/
theorem SurvivesEvents.weaken (survives : SurvivesEvents D) (weaker : ∀ d d', D d d' → D' d d') :
    SurvivesEvents D' where
  waitEvents events d := weaker _ _ (survives.waitEvents events d)
  resolveEvent event d := weaker _ _ (survives.resolveEvent event d)
  enqueueMarker wait d := weaker _ _ (survives.enqueueMarker wait d)
  flush d := weaker _ _ (survives.flush d)

private theorem SurvivesLaunches.weaken (survives : SurvivesLaunches D) (weaker : ∀ d d', D d d' → D' d d') :
    SurvivesLaunches D' where
  toSurvivesEvents := survives.toSurvivesEvents.weaken weaker
  installCode request d := weaker _ _ (survives.installCode request d)
  writeAtomics values wait d := weaker _ _ (survives.writeAtomics values wait d)
  launch code frame atomics grid offset wait d := weaker _ _ (survives.launch code frame atomics grid offset wait d)

private theorem Survives.weaken (survives : Survives D) (weaker : ∀ d d', D d d' → D' d d') : Survives D' where
  toSurvivesLaunches := survives.toSurvivesLaunches.weaken weaker
  allocate sizes d := weaker _ _ (survives.allocate sizes d)
  deallocate buffer d := weaker _ _ (survives.deallocate buffer d)
  streamIn object buffer range wait d := weaker _ _ (survives.streamIn object buffer range wait d)
  streamOut buffer range wait s := weaker _ _ (survives.streamOut buffer range wait s)
  streamOutBlocking buffer range wait s := weaker _ _ (survives.streamOutBlocking buffer range wait s)

namespace ChangeKind

def ofEvents : List ChangeKind := [.drain, .mark, .count]

def ofLaunches : List ChangeKind := ofEvents ++ [.vacate, .renew, .write, .report, .record, .install]

/-- Not among them are loading, completion by name, resets, and other kernels. -/
def ofMachines : List ChangeKind := ofLaunches ++ [.add, .free, .countIn, .countOut]

end ChangeKind

instance survivesEvents_changes : SurvivesEvents (ChangesOnly ChangeKind.ofEvents) where
  waitEvents events := moves_among (only_waitEvents events) (by decide)
  resolveEvent event := moves_among (only_resolveEvent event) (by decide)
  enqueueMarker wait := moves_among (only_enqueueMarker wait) (by decide)
  flush := moves_among only_flush (by decide)

instance survivesLaunches_changes : SurvivesLaunches (ChangesOnly ChangeKind.ofLaunches) where
  toSurvivesEvents := survivesEvents_changes.weaken fun _ _ changes => changes.weaken (by decide)
  installCode request := moves_among (only_installCode request) (by decide)
  writeAtomics values wait := moves_among (only_writeAtomics values wait) (by decide)
  launch code frame atomics grid offset wait :=
    moves_among (only_launch code frame atomics grid offset wait) (by decide)

/-- Whatever a machine asks its device for, the device goes through changes of these kinds. -/
instance survives_changes : Survives (ChangesOnly ChangeKind.ofMachines) where
  toSurvivesLaunches := survivesLaunches_changes.weaken fun _ _ changes => changes.weaken (by decide)
  allocate sizes := moves_among (only_allocate sizes) (by decide)
  deallocate buffer := moves_among (only_deallocate buffer) (by decide)
  streamIn object buffer range wait := moves_among (only_streamIn object buffer range wait) (by decide)
  streamOut buffer range wait s := (only_streamOut buffer range wait s).weaken (by decide)
  streamOutBlocking buffer range wait s := (only_streamOutBlocking buffer range wait s).weaken (by decide)

variable [Op.Transition D] [Tolerates barred D]

/-- What tolerates the changes that have to do with events survives them. -/
theorem survivesEvents_of_allowed (allowed : ∀ kind ∈ ChangeKind.ofEvents, kind ∉ barred) : SurvivesEvents D :=
  survivesEvents_changes.weaken fun _ _ changes => changes.within allowed

/-- What tolerates the changes of launches survives launches. -/
theorem survivesLaunches_of_allowed (allowed : ∀ kind ∈ ChangeKind.ofLaunches, kind ∉ barred) :
    SurvivesLaunches D :=
  survivesLaunches_changes.weaken fun _ _ changes => changes.within allowed

/-- A relation survives a machine if it tolerates these kinds. -/
theorem survives_of_allowed (allowed : ∀ kind ∈ ChangeKind.ofMachines, kind ∉ barred) : Survives D :=
  survives_changes.weaken fun _ _ changes => changes.within allowed

/-- Any change of a device. -/
def Any (_ _ : Device) : Prop := True

instance : Op.Transition Any where
  refl _ := trivial
  trans _ _ := trivial

instance : Tolerates [] Any where
  change _ _ := trivial

instance : Survives Any := survives_of_allowed (by decide)

end Device
end Offload
