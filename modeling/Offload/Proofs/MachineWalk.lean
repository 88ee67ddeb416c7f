import Offload.Machine.Pass
import Offload.Proofs.DeviceChanges

/-! The work of a machine, change by change. A machine works on its device, writes host objects, measures, binds
buffers and arguments, and keeps event lists and binaries. A relation says which of these changes it tolerates, and
then tolerates every operation that is made of them. -/
namespace Offload

namespace Session

/-- The relation tolerates what measurements change: the device as `D` says, timers, and the times of kernels. -/
class ToleratesMeasures (D : outParam (Device → Device → Prop)) (R : Session → Session → Prop) : Prop where
  device : ∀ (s : Session) (device : Device), D s.device device → R s { s with device }
  timer : ∀ (s : Session) (kind : TimerKind) (nanoseconds : Nat),
    R s { s with machine.profiler := s.machine.profiler.addTimer kind nanoseconds }
  kernelTime : ∀ (s : Session) (key : String) (value : Nat),
    R s { s with machine.profiler := s.machine.profiler.addMetric .kernelTime key value }

/-- The relation tolerates the changes that all work may make: besides, arguments, counts and the end of a warmup
are noted. -/
class ToleratesWork (D : outParam (Device → Device → Prop)) (R : Session → Session → Prop) : Prop extends
    ToleratesMeasures D R where
  passes : ∀ (s : Session) (frames : Table UInt32 (List KernelArg)) (stats : MachineStats) (finishedWarmup : Bool),
    R s { s with machine := { s.machine with frames, stats, finishedWarmup } }

/-- The relation tolerates whatever else is measured. -/
class ToleratesMetrics (R : Session → Session → Prop) : Prop where
  metric : ∀ (s : Session) (kind : MetricKind) (key : String) (value : Nat),
    R s { s with machine.profiler := s.machine.profiler.addMetric kind key value }

/-- The relation tolerates what copies change besides. -/
class ToleratesCopies (R : Session → Session → Prop) : Prop extends ToleratesMetrics R where
  object : ∀ (s : Session) (index : Nat) (object : HostObject),
    R s { s with context := s.context.setObject index object }

/-- The relation tolerates event lists of the same capacity. -/
class ToleratesLists (R : Session → Session → Prop) : Prop where
  lists : ∀ (s : Session) (lists : EventLists), lists.capacity = s.machine.lists.capacity →
    R s { s with machine.lists := lists }

/-- The relation tolerates other binaries, for whatever epoch of the device, and what is counted of them. -/
class ToleratesCode (R : Session → Session → Prop) : Prop where
  code : ∀ (s : Session) (cache : CodeCache) (epoch : Nat) (stats : MachineStats),
    R s { s with machine := { s.machine with cache, epoch, stats } }

/-- The relation tolerates other bindings, and what the budget is charged for them. -/
class ToleratesBindings (R : Session → Session → Prop) : Prop where
  binding : ∀ (s : Session) (object : Nat) (change : Binding → Binding),
    R s { s with machine.bindings := s.machine.bindings.modify object change }
  forget : ∀ s : Session,
    R s { s with machine := { s.machine with bindings := s.machine.bindings.unbindAll, frames := {} } }
  charge : ∀ (s : Session) (bytes : Nat), R s { s with context.memory := s.context.memory.add bytes }
  discharge : ∀ (s : Session) (bytes : Nat), R s { s with context.memory := s.context.memory.sub bytes }

/-- The relation tolerates each change that the work of a machine is made of. -/
class Tolerant (D : outParam (Device → Device → Prop)) (R : Session → Session → Prop) : Prop extends
  ToleratesWork D R, ToleratesCopies R, ToleratesLists R, ToleratesCode R, ToleratesBindings R

variable {D : Device → Device → Prop} {R R' : Session → Session → Prop}

/-- A weaker relation tolerates as much. -/
theorem ToleratesWork.weaken [work : ToleratesWork D R] (weaker : ∀ s t, R s t → R' s t) : ToleratesWork D R' where
  device s device changed := weaker _ _ (work.device s device changed)
  passes s frames stats finished := weaker _ _ (work.passes s frames stats finished)
  timer s kind nanoseconds := weaker _ _ (work.timer s kind nanoseconds)
  kernelTime s key value := weaker _ _ (work.kernelTime s key value)

/-- What copies are tolerated by, anything weaker is too. -/
theorem ToleratesCopies.weaken [copies : ToleratesCopies R] (weaker : ∀ s t, R s t → R' s t) :
    ToleratesCopies R' where
  object s index object := weaker _ _ (copies.object s index object)
  metric s kind key value := weaker _ _ (copies.metric s kind key value)

/-- A weaker relation tolerates changes of the event lists as well. -/
theorem ToleratesLists.weaken [lists : ToleratesLists R] (weaker : ∀ s t, R s t → R' s t) : ToleratesLists R' where
  lists s others same := weaker _ _ (lists.lists s others same)

/-- A weaker relation tolerates changes of the cache as well. -/
theorem ToleratesCode.weaken [code : ToleratesCode R] (weaker : ∀ s t, R s t → R' s t) : ToleratesCode R' where
  code s cache epoch stats := weaker _ _ (code.code s cache epoch stats)

end Session

namespace Machine
open Device (SurvivesEvents SurvivesLaunches Survives)
open Session (ToleratesMeasures ToleratesWork ToleratesMetrics ToleratesCopies ToleratesLists ToleratesCode
  ToleratesBindings)

variable {D : Device → Device → Prop} {R : Session → Session → Prop} {α : Type}

/-! ### Single changes -/

section Changes

/-- Work on the device moves the session by what it moves the device by. -/
theorem moves_onDevice [ToleratesMeasures D R] {op : DeviceOp α} (h : Op.Moves op D) :
    Op.Moves (Session.onDevice op) R :=
  Op.moves_onPart (Op.moves_mapError h) fun s device => ToleratesMeasures.device s device

private theorem moves_addTimer [ToleratesMeasures D R] (kind : TimerKind) (nanoseconds : Nat) :
    Op.Moves (addTimer kind nanoseconds) R :=
  Op.moves_modify fun s => ToleratesMeasures.timer s kind nanoseconds

theorem moves_setFrames [ToleratesWork D R] (frames : Machine → Table UInt32 (List KernelArg)) :
    Op.Moves (Session.modifyMachine fun m => { m with frames := frames m }) R :=
  Op.moves_modify fun s => ToleratesWork.passes s _ _ _

theorem moves_setFinished [ToleratesWork D R] (finished : Bool) :
    Op.Moves (Session.modifyMachine fun m => { m with finishedWarmup := finished }) R :=
  Op.moves_modify fun s => ToleratesWork.passes s _ _ _

private theorem moves_addMetric [ToleratesMetrics R] (kind : MetricKind) (key : String) (value : Nat) :
    Op.Moves (addMetric kind key value) R :=
  Op.moves_modify fun s => ToleratesMetrics.metric s kind key value

/-- Whatever becomes of the cache is a change of the code. -/
theorem moves_setCache [ToleratesCode R] (cache : Machine → CodeCache) :
    Op.Moves (Session.modifyMachine fun m => { m with cache := cache m }) R :=
  Op.moves_modify fun s => ToleratesCode.code s _ _ _

theorem moves_clearCode [ToleratesCode R] : Op.Moves clearCode R := moves_setCache _

/-- Whatever becomes of a binding is a change of the bindings. -/
theorem moves_modifyBinding [ToleratesBindings R] (object : Nat) (change : Binding → Binding) :
    Op.Moves (Session.modifyBinding object change) R :=
  Op.moves_modify fun s => ToleratesBindings.binding s object change

variable [Op.Transition R]

/-- The host object changes first, and then the device. -/
theorem moves_onObject [ToleratesMeasures D R] [ToleratesCopies R] (index : Nat) (object : HostObject)
    {op : Device.CopyOut α} (h : Op.Moves op fun x y => D x.2 y.2) : Op.Moves (onObject index object op) R := by
  refine Op.moves_onPart (Op.moves_mapError h) fun s part changed => ?_
  have copied := ToleratesCopies.object (R := R) s index part.1
  exact Op.Transition.trans copied (ToleratesMeasures.device { s with context := _ } part.2 changed)

private theorem moves_setLists [ToleratesLists R] {change : Session → Except MachineError EventLists}
    (capacity : ∀ s lists, change s = .ok lists → lists.capacity = s.machine.lists.capacity) :
    Op.Moves (Op.step fun s => (change s).map fun lists =>
      ((), { s with machine := { s.machine with lists } })) R := by
  refine Op.moves_step fun s a t ran => ?_
  rcases changed : change s with e | lists <;> rw [changed] at ran <;> cases ran
  exact ToleratesLists.lists s lists (capacity s lists changed)

theorem moves_resetList [ToleratesLists R] (list : Option UInt32) : Op.Moves (resetList list) R :=
  moves_setLists fun _ _ => EventLists.capacity_reset

private theorem moves_waitList (list : Option UInt32) : Op.Moves (waitList list) R :=
  Op.moves_bind Op.moves_get fun _ => Op.moves_ofExcept _

end Changes

variable [Op.Transition R]

/-! ### Measurements -/

section Measurements

variable [measures : ToleratesMeasures D R] [SurvivesEvents D]
include measures

/-- Timing reads the device and writes to the profile. -/
theorem moves_addEventTimes (timer : TimerKind) (events : List EventId) : Op.Moves (addEventTimes timer events) R := by
  induction events with
  | nil => exact Op.moves_pure _
  | cons event rest ih =>
    refine Op.moves_bind (moves_onDevice (SurvivesEvents.resolveEvent _)) fun _ => ?_
    exact Op.moves_bind (moves_addTimer _ _) fun _ => Op.moves_bind (moves_addTimer _ _) fun _ => ih

/-- Measuring a transfer writes to the profile alone. -/
theorem moves_profileTransfer [ToleratesMetrics R] (events : List EventId) (timer : TimerKind) (metric : MetricKind)
    (object bytes : Nat) : Op.Moves (profileTransfer events timer metric object bytes) R := by
  refine Op.moves_bind Op.moves_get fun s => Op.moves_ite ?_ (Op.moves_pure _)
  refine Op.moves_bind (moves_onDevice (SurvivesEvents.waitEvents _)) fun _ => ?_
  exact Op.moves_bind (moves_addEventTimes _ _) fun _ => moves_addMetric _ _ _

/-- What is measured of a launch; the result is its event again. -/
def measureLaunch (task : String) (event : EventId) : MachineOp EventId := do
  let s ← Op.get
  if s.machine.profiler.isEnabled then do
    addTimer .dispatch 0
    Session.onDevice (Device.waitEvents [event])
    let profile ← Session.onDevice (Device.resolveEvent event)
    addMetric .kernelTime task profile.elapsed
  else pure ()
  pure event

/-- Measuring a launch writes to the profile alone. -/
theorem moves_measureLaunch (task : String) (event : EventId) : Op.Moves (measureLaunch task event) R := by
  refine Op.moves_bind Op.moves_get fun s => Op.moves_ite ?_ (Op.moves_pure _)
  refine Op.moves_bind (moves_addTimer _ _) fun _ => ?_
  refine Op.moves_bind (moves_onDevice (SurvivesEvents.waitEvents _)) fun _ => ?_
  refine Op.moves_bind (moves_onDevice (SurvivesEvents.resolveEvent _)) fun profile => ?_
  exact Op.moves_bind (Op.moves_modify fun t => ToleratesMeasures.kernelTime t _ _) fun _ => Op.moves_pure _

end Measurements

/-! ### Copies -/

section Copies

variable [work : ToleratesMeasures D R] [ToleratesCopies R]
include work

variable [ToleratesLists R] [Survives D]

/-- A transfer to the device copies, resets its list and may mark the content. -/
theorem moves_transferIn (content : ∀ object, Op.Moves (Session.modifyBinding object fun b => b.setContent true) R)
    (t : Transfer) (once : Bool) : Op.Moves (transferIn t once) R := by
  refine Op.moves_bind Op.moves_get fun s => Op.moves_bind (Op.moves_ofExcept _) fun entry => ?_
  refine Op.moves_ite (Op.moves_pure _) (Op.moves_bind (Op.moves_ofExcept _) fun buffer => ?_)
  refine Op.moves_bind (Op.moves_ofExcept _) fun binding => Op.moves_ite (moves_resetList _) ?_
  refine Op.moves_bind (Op.moves_ofExcept _) fun range => Op.moves_bind (moves_waitList _) fun wait => ?_
  refine Op.moves_bind (moves_onDevice (Survives.streamIn _ _ _ _)) fun events => ?_
  have rest : Op.Moves (do
      resetList t.list
      profileTransfer events .copyIn .copyInBytes t.object.toNat range.size) R :=
    Op.moves_bind (moves_resetList _) fun _ => moves_profileTransfer _ _ _ _ _
  exact Op.moves_ite (Op.moves_bind (content _) fun _ => rest) rest

private theorem moves_transferOut (t : Transfer) (blocking : Bool) : Op.Moves (transferOut t blocking) R := by
  refine Op.moves_bind Op.moves_get fun s => Op.moves_bind (Op.moves_ofExcept _) fun entry => ?_
  refine Op.moves_ite (Op.moves_pure _) (Op.moves_bind (Op.moves_ofExcept _) fun buffer => ?_)
  refine Op.moves_bind (Op.moves_ofExcept _) fun range => Op.moves_bind (moves_waitList _) fun wait => ?_
  refine Op.moves_bind (moves_onObject _ _ (Op.moves_ite (Survives.streamOutBlocking _ _ _)
    (Survives.streamOut _ _ _))) fun event => Op.moves_bind (moves_resetList _) fun _ => ?_
  exact Op.moves_bind (moves_profileTransfer _ _ _ _ _) fun _ => Op.moves_pure _

end Copies

/-! ### Launches -/

section Launches

variable [work : ToleratesWork D R] [launches : SurvivesLaunches D]
include work launches

omit work launches in
/-- The notice of a reset, if the loss of the buffers is tolerated. -/
theorem moves_syncEpoch [ToleratesCode R] (forget : Op.Moves forgetBuffers R) : Op.Moves syncEpoch R := by
  refine Op.moves_bind Op.moves_get fun s => Op.moves_ite (Op.moves_pure _) ?_
  refine Op.moves_ite (Op.moves_fail _) (Op.moves_bind (Op.moves_emit _) fun _ => ?_)
  refine Op.moves_bind forget fun _ => Op.moves_bind moves_clearCode fun _ => ?_
  exact Op.moves_modify fun t => ToleratesCode.code t _ _ _

/-- To build code is to compile on the device, to time it and to install what came out. -/
theorem moves_buildCode [ToleratesCode R] (index : Nat) (task : Task) : Op.Moves (buildCode index task) R := by
  refine Op.moves_bind Op.moves_get fun s => ?_
  refine Op.moves_bind (Op.moves_attempt (moves_onDevice (SurvivesLaunches.installCode _))) fun installed => ?_
  refine Op.moves_bind (Op.moves_emit _) fun _ => ?_
  cases installed with
  | error e => exact Op.moves_fail _
  | ok code =>
    exact Op.moves_bind (moves_addTimer _ _) fun _ => Op.moves_modify fun t => ToleratesCode.code t _ _ _

/-- To fit code is to prepare its slot and to build the code if none is left. -/
theorem moves_fitCode [ToleratesCode R] (l : Launch) : Op.Moves (fitCode l) R := by
  refine Op.moves_bind Op.moves_get fun s => Op.moves_bind (Op.moves_ofExcept _) fun task => ?_
  refine Op.moves_bind (moves_setCache _) fun _ => ?_
  have built {due : Prop} [Decidable due] : Op.Moves (if due then buildCode l.task.toNat task else pure ()) R :=
    Op.moves_ite (moves_buildCode _ _) (Op.moves_pure _)
  exact Op.moves_ite (Op.moves_bind (Op.moves_emit _) fun _ => built) built

/-- A compilation notices a lost device first, which may cost buffers. -/
theorem moves_compile [ToleratesCode R] (forget : Op.Moves forgetBuffers R) (l : Launch) :
    Op.Moves (compile l) R :=
  Op.moves_bind (moves_syncEpoch forget) fun _ => moves_fitCode l

/-- The atomics go to the device; nothing else changes. -/
theorem moves_sendAtomics (atomics : List Int32) : Op.Moves (sendAtomics atomics) R :=
  Op.moves_ite (Op.moves_pure _)
    (Op.moves_bind (moves_onDevice (SurvivesLaunches.writeAtomics _ _)) fun _ => Op.moves_pure _)

/-- Binding a launch sends its atomics and keeps its frame. -/
theorem moves_bindLaunch (l : Launch) : Op.Moves (bindLaunch l) R := by
  refine Op.moves_bind Op.moves_get fun s => Op.moves_bind (Op.moves_ofExcept _) fun task => ?_
  refine Op.moves_bind (moves_setFrames _) fun _ => Op.moves_bind (Op.moves_ofExcept _) fun bound => ?_
  refine Op.moves_bind (moves_waitList _) fun wait => ?_
  exact Op.moves_bind (moves_sendAtomics _) fun _ => Op.moves_pure _

variable [ToleratesLists R]

private theorem moves_enqueue (l : Launch) (code : Binary) (b : BoundLaunch) : Op.Moves (enqueue l code b) R := by
  refine Op.moves_bind (Op.moves_attempt (moves_onDevice (SurvivesLaunches.launch _ _ _ _ _ _))) fun launched => ?_
  refine Op.moves_bind (moves_setFrames _) fun _ => ?_
  cases launched with
  | error e => exact Op.moves_fail _
  | ok event => exact Op.moves_bind (moves_resetList _) fun _ => moves_measureLaunch b.task.id event

/-- A launch works on the device, records in a list and measures. -/
theorem moves_launchWith (l : Launch) (code : Binary) : Op.Moves (launchWith l code) R :=
  Op.moves_bind (moves_bindLaunch l) fun b => moves_enqueue l code b

omit work launches [ToleratesLists R] in
/-- To look for the binary changes nothing. -/
theorem moves_installedCode (l : Launch) : Op.Moves (installedCode l) R := by
  refine Op.moves_bind Op.moves_get fun s => ?_
  exact Op.moves_bind (Op.moves_ofExcept _) fun task => Op.moves_ofExcept _

/-- A dispatch is a launch with the code of its slot. -/
theorem moves_dispatch (l : Launch) : Op.Moves (dispatch l) R :=
  Op.moves_bind (moves_installedCode l) fun code => moves_launchWith l code

end Launches

/-! ### Allocation and release -/

section Buffers

variable [ToleratesBindings R]

/-- Forgotten buffers are unbound, frames are dropped, and the bytes are taken off the usage. -/
theorem moves_forgetBuffers : Op.Moves forgetBuffers R := by
  refine Op.moves_bind Op.moves_get fun s => Op.moves_bind (Op.moves_modify ToleratesBindings.forget) fun _ => ?_
  exact Op.moves_bind (Op.moves_modify fun t => ToleratesBindings.discharge t _) fun _ => Op.moves_pure _

private theorem moves_bindAll [ToleratesCopies R] (pairs : List (BufferRequest × DeviceBuffer)) :
    Op.Moves (bindAll pairs) R := by
  induction pairs with
  | nil => exact Op.moves_pure _
  | cons pair rest ih =>
    exact Op.moves_bind (moves_modifyBinding _ _) fun _ => Op.moves_bind (moves_addMetric _ _ _) fun _ => ih

variable [work : ToleratesWork D R] [survives : Survives D]
include work survives

/-- An allocation works on the device, binds what it was given and charges it. -/
theorem moves_alloc [ToleratesCopies R] (batchSize : Nat) (objects : List UInt32) :
    Op.Moves (alloc batchSize objects) R := by
  refine Op.moves_bind Op.moves_get fun s => Op.moves_bind (Op.moves_ofExcept _) fun requests => ?_
  refine Op.moves_ite (Op.moves_pure _) (Op.moves_bind (Op.moves_ofExcept _) fun _ => ?_)
  refine Op.moves_bind (moves_onDevice (Survives.allocate _)) fun buffers => ?_
  refine Op.moves_bind (Op.moves_modify fun t => ToleratesBindings.charge t _) fun _ => ?_
  exact Op.moves_bind (moves_bindAll _) fun _ => Op.moves_emit _

/-- A release works on the device, unbinds and takes the bytes off the usage. -/
theorem moves_dealloc (object : Nat) : Op.Moves (dealloc object) R := by
  refine Op.moves_bind Op.moves_get fun s => Op.moves_bind (Op.moves_ofExcept _) fun entry => ?_
  refine Op.moves_bind (Op.moves_ofExcept _) fun binding => ?_
  cases binding.buffer with
  | none =>
    exact Op.moves_ite (Op.moves_bind (Op.moves_pure _) fun _ => Op.moves_pure _)
      (Op.moves_bind (Op.moves_emit _) fun _ => Op.moves_pure _)
  | some buffer =>
    refine Op.moves_bind (moves_onDevice (Survives.deallocate _)) fun freed => ?_
    refine Op.moves_bind (moves_modifyBinding _ _) fun _ => ?_
    refine Op.moves_bind (Op.moves_modify fun t => ToleratesBindings.discharge t _) fun _ => ?_
    exact Op.moves_bind (Op.moves_emit _) fun _ => Op.moves_pure _

end Buffers

/-- Releases in a row move by what each of them moves by. -/
theorem moves_deallocAll (freed : ∀ object, Op.Moves (dealloc object) R) (objects : List Nat) :
    Op.Moves (deallocAll objects) R := by
  induction objects with
  | nil => exact Op.moves_pure _
  | cons object rest ih => exact Op.moves_bind (freed object) fun _ => Op.moves_bind ih fun _ => Op.moves_pure _

/-! ### The other instructions -/

/-- A dependency changes one event list. -/
theorem moves_addDependency [ToleratesLists R] (last : Option EventId) (list : Option UInt32) :
    Op.Moves (addDependency last list) R := by
  refine Op.moves_bind Op.moves_get fun s => ?_
  split
  · exact moves_setLists fun _ _ => EventLists.capacity_push
  · exact Op.moves_pure _

theorem moves_keepOnDevice (object : Nat) : Op.Moves (keepOnDevice object) R :=
  Op.moves_bind Op.moves_get fun _ => Op.moves_bind (Op.moves_ofExcept _) fun _ => Op.moves_emit _

/-- A barrier works on the device and resets its list. -/
theorem moves_barrier [ToleratesMeasures D R] [SurvivesEvents D] [ToleratesLists R] (list : Option UInt32) :
    Op.Moves (barrier list) R := by
  refine Op.moves_bind (moves_waitList _) fun _ => ?_
  refine Op.moves_bind (moves_onDevice (SurvivesEvents.enqueueMarker _)) fun _ => ?_
  exact Op.moves_bind (Op.moves_emit _) fun _ => Op.moves_bind (moves_resetList _) fun _ => Op.moves_pure _

/-- An instruction does what it is told, and the rest is tolerated anyway. -/
theorem moves_runInstruction [ToleratesWork D R] [Survives D] [ToleratesCopies R] [ToleratesLists R]
    (last : Option EventId) (offset : Nat) (i : Instruction)
    (allocates : ∀ batchSize objects, i = .alloc batchSize objects → Op.Moves (alloc batchSize.toNat objects) R)
    (frees : ∀ object, i = .dealloc object → Op.Moves (dealloc object.toNat) R)
    (copiesIn : ∀ kind t, i = .transfer kind t → kind = .inOnce ∨ kind = .inAlways →
      ∀ once, Op.Moves (transferIn t once) R)
    (compiles : ∀ l, i = .launch l → Op.Moves (compile l) R) : Op.Moves (runInstruction last offset i) R := by
  cases i with
  | alloc batchSize objects => exact Op.moves_bind (allocates _ _ rfl) fun _ => Op.moves_pure _
  | dealloc object => exact Op.moves_bind (frees _ rfl) fun _ => Op.moves_pure _
  | transfer kind t =>
    cases kind with
    | inOnce => exact Op.moves_bind (copiesIn _ _ rfl (.inl rfl) _) fun _ => Op.moves_pure _
    | inAlways => exact Op.moves_bind (copiesIn _ _ rfl (.inr rfl) _) fun _ => Op.moves_pure _
    | outAlways => exact moves_transferOut _ _
    | outBlocking => exact Op.moves_bind (moves_transferOut _ _) fun _ => Op.moves_pure _
  | launch l => exact Op.moves_bind (compiles l rfl) fun _ => Op.moves_map (moves_dispatch l)
  | addDependency list => exact Op.moves_bind (moves_addDependency _ _) fun _ => Op.moves_pure _
  | onDevice object => exact Op.moves_bind (moves_keepOnDevice _) fun _ => Op.moves_pure _
  | barrier list => exact Op.moves_map (moves_barrier _)
  | context device => exact Op.moves_fail _
  | beginPass => exact Op.moves_fail _
  | endPass => exact Op.moves_pure _

/-- A warmup does something at a launch only: it compiles. -/
theorem moves_warmInstruction (offset : Nat) (i : Instruction)
    (compiles : ∀ l, i = .launch l → Op.Moves (compile l) R) : Op.Moves (warmInstruction offset i) R := by
  cases i with
  | launch l => exact compiles l rfl
  | context device => exact Op.moves_fail _
  | beginPass => exact Op.moves_fail _
  | _ => exact Op.moves_pure _

/-! ### Passes -/

omit [Op.Transition R] in
theorem moves_resetAll [ToleratesLists R] :
    Op.Moves (Session.modifyMachine fun m => { m with lists := m.lists.resetAll }) R :=
  Op.moves_modify fun s => ToleratesLists.lists s _ rfl

/-- The trace of an instruction changes nothing. -/
theorem moves_traceEntry (warmup : Bool) (entry : Entry) : Op.Moves (traceEntry warmup entry) R :=
  Op.moves_bind Op.moves_get fun _ => Op.moves_ite (Op.moves_emit _) (Op.moves_pure _)

/-- An entry moves by its instruction, warmed or run. -/
theorem moves_stepEntry {warmup : Bool} {last : Option EventId} {entry : Entry}
    (warms : warmup = true → Op.Moves (warmInstruction entry.offset entry.instruction) R)
    (runs : warmup = false → Op.Moves (runInstruction last entry.offset entry.instruction) R) :
    Op.Moves (stepEntry warmup last entry) R := by
  cases warmup with
  | true => exact Op.moves_bind (warms rfl) fun _ => Op.moves_pure _
  | false => exact runs rfl

/-- The end of a run enqueues a marker and flushes; both are work of the device. -/
theorem moves_endRun [ToleratesMeasures D R] [SurvivesEvents D] : Op.Moves endRun R := by
  refine Op.moves_bind Op.moves_get fun s => ?_
  have flushed (marker : Option EventId) : Op.Moves (do
      if s.machine.config.flushOnEnd then Session.onDevice Device.flush else pure ()
      pure marker : MachineOp (Option EventId)) R :=
    Op.moves_ite (Op.moves_bind (moves_onDevice SurvivesEvents.flush) fun _ => Op.moves_pure _) (Op.moves_pure _)
  exact Op.moves_ite (Op.moves_bind (Op.moves_map (moves_onDevice (SurvivesEvents.enqueueMarker _))) flushed)
    (Op.moves_bind (Op.moves_pure _) flushed)

/-- The end of a pass is the end of a run, or nothing after a warmup. -/
theorem moves_endPass [ToleratesMeasures D R] [SurvivesEvents D] (warmup : Bool) : Op.Moves (endPass warmup) R :=
  Op.moves_ite (Op.moves_pure _) moves_endRun

/-- However a pass ended, its conclusion counts it and nothing else. -/
theorem moves_concludePass [ToleratesWork D R] (warmup : Bool) (result : Except MachineError (Option EventId)) :
    Op.Moves (concludePass warmup result) R := by
  cases result with
  | error e => exact Op.moves_emit _
  | ok marker =>
    refine Op.moves_bind (Op.moves_modify fun s => ToleratesWork.passes s _ _ _) fun _ => ?_
    exact Op.moves_bind Op.moves_get fun _ => Op.moves_emit _

/-- One instruction after the other, up to the end. -/
theorem moves_runEntries {warmup : Bool} {stop : ScanStop} (ended : Op.Moves (endPass warmup) R)
    {entries : List Entry} (steps : ∀ last, ∀ entry ∈ entries, Op.Moves (stepEntry warmup last entry) R)
    (last : Option EventId) : Op.Moves (runEntries warmup stop last entries) R := by
  induction entries generalizing last with
  | nil =>
    unfold runEntries
    split
    · exact Op.moves_fail _
    · exact ended
  | cons entry rest ih =>
    have step := steps last entry List.mem_cons_self
    refine Op.moves_bind (moves_traceEntry _ _) fun _ => Op.moves_ite ended (Op.moves_bind step fun last => ?_)
    exact ih (fun last entry member => steps last entry (List.mem_cons_of_mem _ member)) last

/-- The instructions of a pass one after the other, without its end. -/
def runPrefix (warmup : Bool) : Option EventId → List Entry → MachineOp (Option EventId)
  | last, [] => pure last
  | last, entry :: rest => do
    traceEntry warmup entry
    let last ← stepEntry warmup last entry
    runPrefix warmup last rest

/-- Entries in a row move by what each entry moves by. -/
theorem moves_runPrefix {warmup : Bool} {entries : List Entry}
    (steps : ∀ last, ∀ entry ∈ entries, Op.Moves (stepEntry warmup last entry) R) (last : Option EventId) :
    Op.Moves (runPrefix warmup last entries) R := by
  induction entries generalizing last with
  | nil => exact Op.moves_pure _
  | cons entry rest ih =>
    have step := steps last entry List.mem_cons_self
    refine Op.moves_bind (moves_traceEntry _ _) fun _ => Op.moves_bind step fun last => ?_
    exact ih (fun last entry member => steps last entry (List.mem_cons_of_mem _ member)) last

/-- A pass without the check before it and the count behind it. -/
def pass (warmup : Bool) : MachineOp (Option EventId) := do
  startPass
  runProgram warmup

/-- The start of a pass resets the event lists and notices a lost device. -/
theorem moves_startPass [ToleratesLists R] (sync : Op.Moves syncEpoch R) : Op.Moves startPass R :=
  Op.moves_bind moves_resetAll fun _ => sync

/-- An execution is a pass and its conclusion. -/
theorem moves_execute (passes : ∀ warmup, Op.Moves (pass warmup) R)
    (concludes : ∀ warmup result, Op.Moves (concludePass warmup result) R) (mode : Mode) :
    Op.Moves (execute mode) R := by
  refine Op.moves_bind Op.moves_get fun s => Op.moves_ite (Op.moves_fail _) ?_
  refine Op.moves_bind (Op.moves_emit _) fun _ => Op.moves_bind (Op.moves_attempt (passes _)) fun result => ?_
  refine Op.moves_bind (concludes _ _) fun _ => ?_
  exact Op.moves_bind (Op.moves_emit _) fun _ => Op.moves_ofExcept _

/-- A warmup executes, and notes before and after it whether the machine is warm. -/
theorem moves_warmup [ToleratesWork D R] (executes : Op.Moves (execute .warmup) R) : Op.Moves warmup R :=
  Op.moves_bind (moves_setFinished false) fun _ => Op.moves_bind executes fun _ => moves_setFinished true

/-! ### Settings -/

section Schedules

variable (recompiles : ∀ index, Op.Moves (Session.modifyMachine fun m =>
  { m with cache := m.cache.forceRecompile index }) R)
include recompiles

private theorem moves_rebuildChanged (schedule : GridSchedule) (index : Nat) (tasks : List Task) :
    Op.Moves (rebuildChanged schedule index tasks) R := by
  induction tasks generalizing index with
  | nil => exact Op.moves_pure _
  | cons task rest ih =>
    refine Op.moves_bind Op.moves_get fun s => Op.moves_ite (ih _) ?_
    exact Op.moves_bind (recompiles index) fun _ => Op.moves_bind (Op.moves_emit _) fun _ => ih _

/-- A changed schedule settles what `R` says of it. -/
theorem moves_setSchedule {schedule : GridSchedule} (settles : ∀ s, R s { s with machine.schedule := schedule }) :
    Op.Moves (setSchedule schedule) R :=
  Op.moves_bind Op.moves_get fun _ =>
    Op.moves_bind (moves_rebuildChanged recompiles _ _ _) fun _ => Op.moves_modify settles

end Schedules

end Machine
end Offload
