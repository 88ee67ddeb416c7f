import Offload.Proofs.Buffers
import Offload.Proofs.Traffic

/-! How copies are counted: by the device when it carries one out, and by the profiler for the object that is copied.
Between the two a transfer empties an event list and waits for the copy, and neither can fail when dependencies are
tracked and events are in order. What is allocated is measured as it is charged to the budget. -/
namespace Offload
open Performance (Direction)
open Machine (bufferOf contentOf usage objectKey)

/-- Where the bytes of a direction are measured. -/
def Performance.Direction.metric : Direction → MetricKind
  | .hostToDevice => .copyInBytes
  | .deviceToHost => .copyOutBytes

theorem Performance.Direction.metric_inj {direction other : Direction} :
    direction.metric = other.metric ↔ direction = other := by
  cases direction <;> cases other <;> decide

private theorem Performance.Direction.metric_ne_kernelTime (direction : Direction) :
    direction.metric ≠ .kernelTime := by
  cases direction <;> decide

private theorem Performance.Direction.metric_ne_allocationBytes (direction : Direction) :
    direction.metric ≠ .allocationBytes := by
  cases direction <;> decide

/-- A copy between a host object and its buffer. -/
structure Copy where
  direction : Direction
  object : Nat
  bytes : Nat
  deriving Repr, DecidableEq

/-- The bytes that are copied in a direction. -/
def copiedBytes (direction : Direction) (copies : List Copy) : Nat :=
  ((copies.filter fun copy => copy.direction = direction).map Copy.bytes).sum

/-- The copies of an object. -/
def copiesOf (object : Nat) (copies : List Copy) : List Copy :=
  copies.filter fun copy => copy.object = object

private theorem copiedBytes_append (direction : Direction) (copies more : List Copy) :
    copiedBytes direction (copies ++ more) = copiedBytes direction copies + copiedBytes direction more := by
  simp [copiedBytes]

private theorem copiesOf_append (object : Nat) (copies more : List Copy) :
    copiesOf object (copies ++ more) = copiesOf object copies ++ copiesOf object more :=
  List.filter_append ..

private theorem copiedBytes_single (direction : Direction) (copy : Copy) :
    copiedBytes direction [copy] = if copy.direction = direction then copy.bytes else 0 := by
  by_cases same : copy.direction = direction <;> simp [copiedBytes, same]

private theorem copiedBytes_copiesOf_single (direction : Direction) (object : Nat) (copy : Copy) :
    copiedBytes direction (copiesOf object [copy]) =
      if copy.direction = direction ∧ copy.object = object then copy.bytes else 0 := by
  by_cases named : copy.object = object <;> by_cases same : copy.direction = direction <;>
    simp [copiedBytes, copiesOf, named, same]

/-! ### Which copies are made -/

namespace DeviceCommand

/-- The direction of a copy, and its bytes. -/
def copy? : DeviceCommand → Option (Direction × Nat)
  | .streamIn _ _ range _ => some (.hostToDevice, range.size)
  | .streamOut _ _ range _ _ => some (.deviceToHost, range.size)
  | _ => none

/-- The copy of an object that a device makes on a command, if it carries out the command. -/
def made (object : Nat) (command : DeviceCommand) (d : Device) : Option Copy :=
  if (command.run d).result.isOk then command.copy?.map fun (direction, bytes) => ⟨direction, object, bytes⟩ else none

variable {α : Type} {command : DeviceCommand} {op : DeviceOp α} {d d' : Device} {direction : Direction} {bytes : Nat}

private theorem made_of_failed {e : DeviceError} (runs : command.run = (fun _ => ()) <$> op)
    (failed : (op d).result = .error e) (object : Nat) : command.made object d = none := by
  have refused : (command.run d).result = .error e := by
    rw [runs]
    exact (Op.bind_of_failed failed).1
  rw [made, refused]
  rfl

private theorem made_of_yields {a : α} (runs : command.run = (fun _ => ()) <$> op) (ran : Op.Yields op d a d')
    (copies : command.copy? = some (direction, bytes)) (object : Nat) :
    command.made object d = some ⟨direction, object, bytes⟩ := by
  have done : (command.run d).result = .ok () := by
    rw [runs]
    exact (Op.bind_of_yields ran).1
  rw [made, done, copies]
  rfl

end DeviceCommand

namespace Machine

/-- The copy that a transfer asks its device for. -/
def transferCommand (kind : TransferKind) (object : HostObject) (buffer : DeviceBuffer) (range : HostRange)
    (wait : List EventId) : DeviceCommand :=
  match kind with
  | .inOnce | .inAlways => .streamIn object buffer range wait
  | .outAlways => .streamOut object buffer range wait false
  | .outBlocking => .streamOut object buffer range wait true

/-- What a transfer asks its device for, unless it fails before that or has nothing to copy. -/
def transferCommand? (kind : TransferKind) (t : Transfer) (s : Session) : Option DeviceCommand := do
  let entry ← (s.context.object t.object.toNat).toOption
  let buffer ← bufferOf s t.object.toNat
  let range ← (transferRange t entry.object.byteSize).toOption
  let wait ← (s.machine.lists.waitList (t.list.map UInt32.toNat) s.machine.config.useDependencies).toOption
  if entry.object.isKernelContext ∨ kind = .inOnce ∧ t.batchSize = 0 ∧ contentOf s t.object.toNat then none
  else some (transferCommand kind entry.object buffer range wait)

/-- The bytes that a release gives back. -/
def freedBytes (object : Nat) (s : Session) : Nat :=
  match (dealloc object s).result with
  | .ok freed => freed
  | .error _ => 0

end Machine

/-- The copy that an instruction makes. -/
def Instruction.copy? (s : Session) : Instruction → Option Copy
  | .transfer kind t => (Machine.transferCommand? kind t s).bind fun command => command.made t.object.toNat s.device
  | _ => none

/-- The bytes that an instruction gives back. -/
def Instruction.freed (s : Session) : Instruction → Nat
  | .dealloc object => Machine.freedBytes object.toNat s
  | _ => 0

/-! ### What is counted of them -/

/-- The measurements and the traffic have grown by these copies, and what was allocated is in use or given back. -/
structure Reconciles (copies : List Copy) (freed : Nat) (before after : Session) : Prop where
  metric : ∀ direction object, after.profile.metric direction.metric (objectKey object) =
    before.profile.metric direction.metric (objectKey object) + copiedBytes direction (copiesOf object copies)
  total : ∀ direction, after.profile.metricTotal direction.metric =
    before.profile.metricTotal direction.metric + copiedBytes direction copies
  traffic : ∀ direction, after.device.traffic direction =
    before.device.traffic direction + copiedBytes direction copies
  allocated : after.profile.metricTotal .allocationBytes + usage before =
    before.profile.metricTotal .allocationBytes + usage after + freed

namespace Reconciles

variable {s t u : Session} {copies more : List Copy} {freed freed' : Nat}

/-- Copies and releases add up. -/
theorem trans (first : Reconciles copies freed s t) (second : Reconciles more freed' t u) :
    Reconciles (more ++ copies) (freed' + freed) s u where
  metric direction object := by
    rw [second.metric, first.metric, copiesOf_append, copiedBytes_append]
    omega
  total direction := by
    rw [second.total, first.total, copiedBytes_append]
    omega
  traffic direction := by
    rw [second.traffic, first.traffic, copiedBytes_append]
    omega
  allocated := by
    have charged := first.allocated
    have charged' := second.allocated
    omega

/-- Work that counts nothing makes no copy. -/
theorem of_uncounted (uncounted : s.Uncounted t) : Reconciles [] 0 s t := by
  have same (direction : Direction) : t.profile.totals direction.metric = s.profile.totals direction.metric :=
    uncounted.totals _ direction.metric_ne_kernelTime
  refine ⟨fun direction object => Profile.metric_congr (same direction),
    fun direction => Profile.metricTotal_congr (same direction), congrFun uncounted.traffic, ?_⟩
  have allocated := Profile.metricTotal_congr (uncounted.totals .allocationBytes (by decide))
  have charged : usage t = usage s := uncounted.usage
  omega

end Reconciles

/-! ### Copies -/

namespace Session

variable {s t u : Session} {direction : Direction} {object bytes : Nat}

/-- A machine that measures and tracks events, in step with a device whose events are in order. Its names are sorted,
and the budget holds what it has bound. -/
structure Watched (s : Session) : Prop where
  enabled : s.machine.profiler.isEnabled = true
  sorted : s.profile.Sorted
  tracked : s.machine.config.useDependencies = true
  current : s.device.epoch = s.machine.epoch
  sound : s.device.events.Sound
  booked : ∃ others, s.Books others

/-- The device has counted a copy that is not measured yet. -/
structure Copied (direction : Direction) (bytes : Nat) (before after : Session) : Prop where
  enabled : after.machine.profiler.isEnabled = before.machine.profiler.isEnabled
  totals : ∀ kind, kind ≠ .kernelTime → after.profile.totals kind = before.profile.totals kind
  traffic : after.device.traffic = before.device.trafficWith direction bytes
  usage : after.context.memory.usage = before.context.memory.usage

private theorem Copied.later (copied : Copied direction bytes s t) (uncounted : t.Uncounted u) :
    Copied direction bytes s u :=
  ⟨uncounted.enabled.trans copied.enabled,
    fun kind other => (uncounted.totals kind other).trans (copied.totals kind other),
    uncounted.traffic.trans copied.traffic, uncounted.usage.trans copied.usage⟩

/-- When it is measured as well, both sides have counted it. -/
theorem Copied.measured (copied : Copied direction bytes s u) (watched : s.Watched) (object : Nat) :
    Reconciles [⟨direction, object, bytes⟩] 0 s
      (Machine.addMetric direction.metric (objectKey object) bytes u).state := by
  have enabled : u.machine.profiler.isEnabled = true := copied.enabled.trans watched.enabled
  have same (other : Direction) : u.profile.totals other.metric = s.profile.totals other.metric :=
    copied.totals _ other.metric_ne_kernelTime
  have ordered : (u.profile.totals direction.metric).keys.Pairwise (· < ·) := by
    rw [same]
    exact watched.sorted _
  refine ⟨fun other name => ?_, fun other => ?_, fun other => ?_, ?_⟩
  · refine (Profiler.metric_addMetric enabled _ _ _ _ _).trans ?_
    rw [copiedBytes_copiesOf_single, ← Profile.metric_congr (same other)]
    simp only [Direction.metric_inj, Machine.objectKey_inj]
    rfl
  · refine (Profiler.metricTotal_addMetric enabled ordered _ _ _).trans ?_
    rw [copiedBytes_single, ← Profile.metricTotal_congr (same other)]
    simp only [Direction.metric_inj]
    rfl
  · show u.device.traffic other = _
    rw [copied.traffic, Device.trafficWith, copiedBytes_single]
    simp only [eq_comm]
  · have measured := Profiler.metricTotal_addMetric enabled ordered .allocationBytes (objectKey object) bytes
    have allocated := Profile.metricTotal_congr (copied.totals .allocationBytes (by decide))
    have charged : Machine.usage u = Machine.usage s := copied.usage
    rw [if_neg direction.metric_ne_allocationBytes, Nat.add_zero] at measured
    show (u.machine.profiler.addMetric _ _ _).profile.metricTotal _ + Machine.usage s = _ + Machine.usage u + 0
    rw [measured, charged, ← allocated]
    rfl

end Session

namespace Machine
open Session (Uncounted Copied)

variable {s : Session} {kind : TransferKind} {t : Transfer} {entry : ObjectEntry} {buffer : DeviceBuffer}
  {list : Option UInt32} {direction : Direction} {object bytes : Nat} {α β γ : Type}

/-- Behind a copy, its list is emptied and its bytes are measured. -/
theorem rest_measures {events : List EventId} {timer : TimerKind} {metric : MetricKind}
    (declared : Inside s.machine.lists.size list) (sound : s.device.events.Sound)
    (known : ∀ e ∈ events, s.device.events.Knows e) (enabled : s.machine.profiler.isEnabled = true) :
    ∃ u, Uncounted s u ∧ ((do
      resetList list
      profileTransfer events timer metric object bytes) s).state =
        (addMetric metric (objectKey object) bytes u).state := by
  obtain ⟨lists, emptied⟩ := resetList_inside declared
  obtain ⟨d, waited, later⟩ := Device.waitEvents_yields sound known
  let waiting : Session := { s with machine.lists := lists, device := d }
  have waits : Op.Yields (Session.onDevice (Device.waitEvents events)) { s with machine.lists := lists } () waiting :=
    yields_onDevice.2 ⟨d, waited, rfl⟩
  obtain ⟨_, u, timed, _⟩ : Op.Goes (addEventTimes timer events) waiting :=
    addEventTimes_goes later.sound fun e member => later.knows e (known e member)
  refine ⟨u, ?_, ?_⟩
  · have uncounted := (moves_resetList (R := Uncounted) list).yields emptied
    have uncounted' := (moves_onDevice (R := Uncounted) (Device.SurvivesEvents.waitEvents events)).yields waits
    exact Op.Transition.trans uncounted
      (Op.Transition.trans uncounted' ((moves_addEventTimes timer events).yields timed))
  · rw [(Op.bind_of_yields emptied).2, profileTransfer, Op.get_bind, if_pos enabled, (Op.bind_of_yields waits).2,
      (Op.bind_of_yields timed).2]

/-- What a machine asks its device for, at the start of something: the device carries it out on its own, and only
host objects may change beside it. -/
structure Asks (first : MachineOp α) (op : DeviceOp α) (s : Session) : Prop where
  result : (first s).result = (op s.device).result.mapError MachineError.ofDevice
  state : ∃ context : Context, context.memory = s.context.memory ∧
    (first s).state = { s with context, device := (op s.device).state }

/-- A copy is counted by the device and by the profiler, or by neither. -/
theorem reconciles_copy {command : DeviceCommand} {op : DeviceOp α} {first : MachineOp α} {next : α → MachineOp β}
    {make : EventId → α} (watched : s.Watched) (asks : Asks first op s) (runs : command.run = (fun _ => ()) <$> op)
    (copies : command.copy? = some (direction, bytes)) (counted : Device.Counted op direction bytes make)
    (rest : ∀ event (u : Session), u.machine = s.machine → u.device.events.Sound → u.device.events.Knows event →
      ∃ v, Uncounted u v ∧
        (next (make event) u).state = (addMetric direction.metric (objectKey object) bytes v).state) :
    Reconciles (command.made object s.device).toList 0 s ((first >>= next) s).state := by
  obtain ⟨context, budget, state⟩ := asks.state
  have charged : context.memory.usage = s.context.memory.usage := congrArg MemoryBudget.usage budget
  rcases counted s.device watched.sound with ⟨⟨e, failed⟩, none⟩ | ⟨event, d, ran, counts⟩
  · have refused : (first s).result = .error (.ofDevice e) := by
      rw [asks.result, failed]
      rfl
    rw [command.made_of_failed runs failed, (Op.bind_of_failed refused).2, state]
    exact .of_uncounted ⟨rfl, fun _ _ => rfl, none, charged⟩
  · -- The device has counted the bytes here and the profiler has not: what is left must go through.
    let u : Session := { s with context, device := d }
    have began : Op.Yields first s (make event) u := by
      refine ⟨?_, ?_⟩
      · rw [asks.result, ran.1]
        rfl
      · rw [state, ran.2]
    have copied : Copied direction bytes s u := ⟨rfl, fun _ _ => rfl, counts.traffic, charged⟩
    obtain ⟨v, uncounted, measured⟩ := rest event u rfl counts.sound counts.known
    rw [command.made_of_yields runs ran copies, (Op.bind_of_yields began).2, measured]
    exact (copied.later uncounted).measured watched object

private theorem asks_onDevice (op : DeviceOp α) (s : Session) : Asks (Session.onDevice op) op s where
  result := by
    unfold Session.onDevice Op.onPart Op.mapError
    rcases op s.device with ⟨e | a, d, log⟩ <;> rfl
  state := ⟨s.context, rfl, onDevice_state op s⟩

private theorem asks_onObject (index : Nat) (object : HostObject) (op : Device.CopyOut α) (s : Session) :
    Asks (onObject index object op) (DeviceCommand.copyOut object op) s where
  result := by
    unfold onObject DeviceCommand.copyOut Op.onPart Op.mapError
    rcases op (object, s.device) with ⟨e | a, d, log⟩ <;> rfl
  state := ⟨s.context.setObject index (op (object, s.device)).state.1, rfl, onObject_state index object op s⟩

/-- A transfer has what it copies between: a host object, the kernel context apart, and its buffer. -/
structure Ready (s : Session) (t : Transfer) (entry : ObjectEntry) (buffer : DeviceBuffer) : Prop where
  known : s.context.object t.object.toNat = .ok entry
  ordinary : ¬ entry.object.isKernelContext
  bound : bufferOf s t.object.toNat = some buffer

private theorem Ready.transferCommand? (ready : Ready s t entry buffer)
    (due : ¬ (kind = .inOnce ∧ t.batchSize = 0 ∧ contentOf s t.object.toNat = true)) :
    Machine.transferCommand? kind t s = (transferRange t entry.object.byteSize).toOption.bind fun range =>
      (s.machine.lists.waitList (t.list.map UInt32.toNat) s.machine.config.useDependencies).toOption.bind fun wait =>
        some (transferCommand kind entry.object buffer range wait) := by
  have asked : ¬ (entry.object.isKernelContext = true ∨
      kind = .inOnce ∧ t.batchSize = 0 ∧ contentOf s t.object.toNat = true) := not_or.2 ⟨ready.ordinary, due⟩
  simp only [Machine.transferCommand?, ready.known, ready.bound, Except.toOption, Option.bind_eq_bind,
    Option.bind_some, if_neg asked]

/-- A list whose events are found is one of the lists. -/
theorem inside_of_waitList {wait : List EventId} (tracked : s.machine.config.useDependencies = true)
    (found : s.machine.lists.waitList (list.map UInt32.toNat) s.machine.config.useDependencies = .ok wait) :
    Inside s.machine.lists.size list := by
  rintro index rfl
  rw [tracked] at found
  exact (List.getElem?_eq_some_iff.1 (EventLists.get_ok_iff.1 found)).1

/-- With dependencies tracked, a transfer that finds the events of its list finds the list when it is to empty it. -/
theorem reconciles_ranged {next : HostRange → List EventId → MachineOp α} (watched : s.Watched)
    (ready : Ready s t entry buffer)
    (due : ¬ (kind = .inOnce ∧ t.batchSize = 0 ∧ contentOf s t.object.toNat = true))
    (copied : ∀ range wait, Inside s.machine.lists.size t.list →
      Reconciles ((transferCommand kind entry.object buffer range wait).made t.object.toNat s.device).toList 0 s
        (next range wait s).state) :
    Reconciles (Instruction.copy? s (.transfer kind t)).toList 0 s ((do
      let range ← Op.ofExcept (transferRange t entry.object.byteSize)
      let wait ← waitList t.list
      next range wait) s).state := by
  rw [Instruction.copy?, ready.transferCommand? due, waitList]
  rcases transferRange t entry.object.byteSize with e | range
  · exact .of_uncounted (Op.Transition.refl s)
  -- Only tracked dependencies look the list up before the copy, and so show that it can be emptied behind it.
  rw [Op.ofExcept, Op.pure_bind, Op.bind_assoc, Op.get_bind]
  rcases found : s.machine.lists.waitList (t.list.map UInt32.toNat) s.machine.config.useDependencies with e | wait
  · exact .of_uncounted (Op.Transition.refl s)
  · exact copied range wait (inside_of_waitList watched.tracked found)

private theorem reconciles_deliver (watched : s.Watched) (ready : Ready s t entry buffer) (inward : kind.Inward)
    (due : ¬ (kind = .inOnce ∧ t.batchSize = 0 ∧ contentOf s t.object.toNat = true)) :
    Reconciles (Instruction.copy? s (.transfer kind t)).toList 0 s (deliver t entry buffer s).state := by
  refine reconciles_ranged watched ready due fun range wait declared => ?_
  have command : transferCommand kind entry.object buffer range wait = .streamIn entry.object buffer range wait := by
    cases kind <;> first | rfl | exact inward.elim
  rw [command]
  refine reconciles_copy watched (asks_onDevice _ s) rfl rfl
    (Device.counted_streamIn entry.object buffer range wait) fun event u machine sound known => ?_
  have good : ∀ e ∈ [event], u.device.events.Knows e := List.forall_mem_singleton.2 known
  have there : Inside u.machine.lists.size t.list := machine ▸ declared
  have enabled : u.machine.profiler.isEnabled = true := machine ▸ watched.enabled
  split
  · -- A whole object is marked as held between the copy and its measurement.
    let marked : Session :=
      { u with machine.bindings := u.machine.bindings.modify t.object.toNat fun b => b.setContent true }
    have noted : Uncounted u marked := ⟨rfl, fun _ _ => rfl, rfl, rfl⟩
    obtain ⟨v, uncounted, measured⟩ := rest_measures (s := marked) there sound good enabled
    exact ⟨v, Op.Transition.trans noted uncounted, measured⟩
  · exact rest_measures there sound good enabled

private theorem reconciles_fetch (watched : s.Watched) (ready : Ready s t entry buffer) (blocking : Bool) :
    Reconciles (Instruction.copy? s (.transfer (if blocking then .outBlocking else .outAlways) t)).toList 0 s
      (fetch t blocking entry buffer s).state := by
  have due : ¬ ((if blocking then TransferKind.outBlocking else .outAlways) = .inOnce ∧ t.batchSize = 0 ∧
      contentOf s t.object.toNat = true) := by
    cases blocking <;> simp
  refine reconciles_ranged watched ready due fun range wait declared => ?_
  have command : transferCommand (if blocking then .outBlocking else .outAlways) entry.object buffer range wait =
      .streamOut entry.object buffer range wait blocking := by
    cases blocking <;> rfl
  rw [command]
  refine reconciles_copy watched (asks_onObject _ _ _ s) rfl rfl
    (Device.counted_copyBack entry.object blocking buffer range wait) fun event u machine sound known => ?_
  have good : ∀ e ∈ [event], u.device.events.Knows e := List.forall_mem_singleton.2 known
  have there : Inside u.machine.lists.size t.list := machine ▸ declared
  have enabled : u.machine.profiler.isEnabled = true := machine ▸ watched.enabled
  have rest : (do
      resetList t.list
      profileTransfer [event] .copyOut .copyOutBytes t.object.toNat range.size
      pure (some event)) = (fun _ => some event) <$> (do
        resetList t.list
        profileTransfer [event] .copyOut .copyOutBytes t.object.toNat range.size) :=
    (Op.bind_assoc _ _ _).symm
  obtain ⟨v, uncounted, measured⟩ := rest_measures (s := u) there sound good enabled
  exact ⟨v, uncounted, (congrArg (fun op => (op u).state) rest).trans ((Op.map_state _ _ u).trans measured)⟩

/-! ### Transfers -/

private theorem transferCommand?_unready (unready : ¬ ∃ entry buffer, Ready s t entry buffer) :
    transferCommand? kind t s = none := by
  rcases found : s.context.object t.object.toNat with e | entry
  · simp [transferCommand?, found, Except.toOption]
  rcases bound : bufferOf s t.object.toNat with _ | buffer
  · simp [transferCommand?, found, bound, Except.toOption]
  have marker : entry.object.isKernelContext = true := by
    by_contra ordinary
    exact unready ⟨entry, buffer, found, ordinary, bound⟩
  simp [transferCommand?, found, bound, marker, Except.toOption]

/-- Without what it copies between, a transfer ends before it has changed anything. -/
theorem unready_rests (unready : ¬ ∃ entry buffer, Ready s t entry buffer) (use : BufferUse) (a : α)
    (next : ObjectEntry → DeviceBuffer → MachineOp α) :
    ((do
      let entry ← Op.ofExcept (s.context.object t.object.toNat)
      if entry.object.isKernelContext then pure a
      else do
        let buffer ← Op.ofExcept (s.machine.boundBuffer use t.object.toNat)
        next entry buffer) s).state = s := by
  rcases found : s.context.object t.object.toNat with e | entry
  · rfl
  rw [Op.ofExcept, Op.pure_bind]
  by_cases marker : entry.object.isKernelContext
  · rw [if_pos marker]
    rfl
  rcases bound : s.machine.boundBuffer use t.object.toNat with e | buffer
  · rw [if_neg marker]
    rfl
  · exact absurd ⟨entry, buffer, found, marker, boundBuffer_ok_iff.1 bound⟩ unready

theorem reconciles_transferIn (watched : s.Watched) (t : Transfer) (kind : TransferKind) (inward : kind.Inward) :
    Reconciles (Instruction.copy? s (.transfer kind t)).toList 0 s (transferIn t (kind = .inOnce) s).state := by
  by_cases ready : ∃ entry buffer, Ready s t entry buffer
  · obtain ⟨entry, buffer, ready⟩ := ready
    rw [transferIn_bound ready.known ready.ordinary ready.bound]
    by_cases leftOut : kind = .inOnce ∧ t.batchSize = 0 ∧ contentOf s t.object.toNat = true
    · have none : Instruction.copy? s (.transfer kind t) = none := by
        simp [Instruction.copy?, transferCommand?, leftOut]
      rw [if_pos (by simpa using leftOut), none]
      exact .of_uncounted (moves_resetList t.list s)
    · rw [if_neg (by simpa using leftOut)]
      exact reconciles_deliver watched ready inward leftOut
  · rw [transferIn, Op.get_bind, unready_rests ready, Instruction.copy?, transferCommand?_unready ready]
    exact .of_uncounted (Op.Transition.refl s)

theorem reconciles_transferOut (watched : s.Watched) (t : Transfer) (blocking : Bool) :
    Reconciles (Instruction.copy? s (.transfer (if blocking then .outBlocking else .outAlways) t)).toList 0 s
      (transferOut t blocking s).state := by
  by_cases ready : ∃ entry buffer, Ready s t entry buffer
  · obtain ⟨entry, buffer, ready⟩ := ready
    rw [transferOut_bound ready.known ready.ordinary ready.bound]
    exact reconciles_fetch watched ready blocking
  · rw [transferOut, Op.get_bind, unready_rests ready, Instruction.copy?, transferCommand?_unready ready]
    exact .of_uncounted (Op.Transition.refl s)

/-! ### Buffers -/

/-- What is bound is measured. -/
theorem bindAll_measures {pairs : List (BufferRequest × DeviceBuffer)} {u : Session}
    (ran : Op.Yields (bindAll pairs) s () u) (enabled : s.machine.profiler.isEnabled = true)
    (sorted : s.profile.Sorted) :
    (∀ direction : Direction, u.profile.totals direction.metric = s.profile.totals direction.metric) ∧
      u.profile.metricTotal .allocationBytes =
        s.profile.metricTotal .allocationBytes + (pairs.map fun pair => pair.2.size).sum := by
  induction pairs generalizing s with
  | nil =>
    simp only [bindAll, Op.yields_pure] at ran
    obtain ⟨_, rfl⟩ := ran
    exact ⟨fun _ => rfl, rfl⟩
  | cons pair rest ih =>
    simp only [bindAll, Session.modifyBinding, addMetric, Session.modifyProfiler, Session.modifyMachine,
      Op.yields_bind, Op.yields_modify] at ran
    obtain ⟨_, _, rfl, _, _, rfl, all⟩ := ran
    obtain ⟨others, allocated⟩ := ih all ((Profiler.isEnabled_addMetric _ _ _ _).trans enabled)
      (Profiler.sorted_addMetric sorted _ _ _)
    refine ⟨fun direction => (others direction).trans ?_, allocated.trans ?_⟩
    · exact Profiler.totals_addMetric_other _ _ _ direction.metric_ne_allocationBytes.symm
    · have measured := Profiler.metricTotal_addMetric enabled (sorted .allocationBytes) .allocationBytes
        (objectKey pair.1.object) pair.2.size
      rw [if_pos rfl] at measured
      rw [List.map_cons, List.sum_cons, ← Nat.add_assoc]
      exact congrArg (· + _) measured

theorem reconciles_alloc (watched : s.Watched) (batchSize : Nat) (objects : List UInt32) :
    Reconciles [] 0 s (alloc batchSize objects s).state := by
  -- What fails has charged nothing, so only an allocation that ends well has something to measure.
  rcases ran : (alloc batchSize objects s).result with e | ⟨⟩
  · rw [refuses_alloc batchSize objects s e ran]
    exact .of_uncounted (Op.Transition.refl s)
  have done : Op.Yields (alloc batchSize objects) s () (alloc batchSize objects s).state := ⟨ran, rfl⟩
  generalize (alloc batchSize objects s).state = u at done ⊢
  simp only [alloc, Op.yields_bind, Op.yields_get, Op.yields_ofExcept] at done
  obtain ⟨_, _, ⟨rfl, rfl⟩, requests, _, ⟨asked, rfl⟩, rest⟩ := done
  split at rest
  · simp only [Op.yields_pure] at rest
    rw [← rest.2]
    exact .of_uncounted (Op.Transition.refl s)
  simp only [Op.yields_bind, Op.yields_ofExcept, yields_onDevice, Session.modifyMemory, Op.yields_modify,
    Op.yields_emit] at rest
  obtain ⟨_, _, ⟨_, rfl⟩, buffers, _, ⟨device, allocated, rfl⟩, _, _, rfl, _, v, bound, rfl⟩ := rest
  obtain ⟨context, sameDevice, _⟩ := bindAll_binds bound
  obtain ⟨others, measured⟩ := bindAll_measures bound watched.enabled watched.sorted
  have traffic : v.device.traffic = s.device.traffic := by
    rw [sameDevice]
    exact (Device.moves_within (R := Device.SameTraffic) (Device.only_allocate _) (by decide)).yields allocated
  refine ⟨fun direction object => Profile.metric_congr (others direction),
    fun direction => Profile.metricTotal_congr (others direction), congrFun traffic, ?_⟩
  rw [measured, allocate_zip (allocate_adds allocated), usage, usage, context]
  show _ + List.sum _ + s.context.memory.usage = s.profile.metricTotal _ + (s.context.memory.usage + List.sum _) + 0
  exact (Nat.add_right_comm _ _ _).trans (Nat.add_assoc _ _ _)

theorem reconciles_dealloc (watched : s.Watched) (object : Nat) :
    Reconciles [] (freedBytes object s) s (dealloc object s).state := by
  obtain ⟨others, books⟩ := watched.booked
  unfold freedBytes
  rcases ran : (dealloc object s).result with e | freed
  · rw [refuses_dealloc object s e ran]
    exact .of_uncounted (Op.Transition.refl s)
  have done : Op.Yields (dealloc object) s freed (dealloc object s).state := ⟨ran, rfl⟩
  generalize (dealloc object s).state = u at done ⊢
  have charged := (dealloc_exact books done).1
  have same : u.profile = s.profile ∧ u.device.traffic = s.device.traffic := by
    obtain ⟨_, _, _, _, ⟨_, _, rfl⟩ | ⟨_, _, _, _, rfl⟩⟩ := yields_dealloc.1 done
    · exact ⟨rfl, rfl⟩
    · exact ⟨rfl, rfl⟩
  refine ⟨fun direction object => ?_, fun direction => ?_, congrFun same.2, ?_⟩ <;> rw [same.1]
  · rfl
  · rfl
  · dsimp only
    omega

end Machine
end Offload
