import Offload.Machine.Basic

/-!
Launches: compile the task if its binary does not fit the batch, bind the arguments, and enqueue the
kernel. Atomic objects are not bound to buffers: their values travel in one array with the launch,
and the kernel gets the index of the first.
-/
namespace Offload.Machine

/-- Build the binary that the slot of a task calls for. -/
def buildCode (index : Nat) (task : Task) : MachineOp Unit := do
  let s ← Op.get
  let request := s.machine.cache.request index task (s.machine.schedule.get? task.id)
  let installed ← Op.attempt (Session.onDevice (Device.installCode request))
  Op.emit (Performance.timedBlock "install_code")
  match installed with
  | .error e => Op.fail (e.forTask task.id)
  | .ok code => do
    addTimer .compile 0
    Session.modifyMachine fun m =>
      { m with
        cache := m.cache.install index code task.writesLoopIndex
        stats := { m.stats with compilations := m.stats.compilations + 1 } }

/-- Take over the batch of a launch, and build a binary if none is left that fits it. -/
def fitCode (l : Launch) : MachineOp Unit := do
  let s ← Op.get
  let index := l.task.toNat
  let threads := l.batchThreads.toNat
  let task ← Op.ofExcept (s.context.task index)
  let (triggered, cache) := s.machine.cache.prepare index threads task.writesLoopIndex
  Session.modifyMachine fun m => { m with cache }
  if triggered then
    Op.emit ⟨.debug, some "recompilation_triggered", [("task", task.id), ("batch_threads", threads)]⟩
  else pure ()
  if cache.needsCompile index then buildCode index task else pure ()

/-- Have a binary for the task that fits the batch of the launch. -/
def compile (l : Launch) : MachineOp Unit := do
  syncEpoch
  fitCode l

/-- The values of an atomic object. -/
def atomicValues (object : HostObject) (index : Nat) : Except MachineError (List Int32) :=
  match object with
  | .array a =>
    if a.element = .i32 then
      .ok ((Bytes.words 4 a.bytes).map fun word => (UInt32.ofNat word).toInt32)
    else .error (.malformed (.notAtomic index a.element.name))
  | .scalar (.i32 value) => .ok [value]
  | other => .error (.malformed (.notAtomic index other.text))

/-- Bind the arguments one after the other, behind those in the frame; the second result is the
atomics of the launch. -/
def bindArgs (c : Context) (m : Machine) :
    List LaunchArg → List KernelArg → List Int32 → Except MachineError (List KernelArg × List Int32)
  | [], frame, atomics => .ok (frame, atomics)
  | .constant index :: rest, frame, atomics => do
    let value ← c.constant index.toNat
    bindArgs c m rest (frame ++ [.constant value]) atomics
  | .reference index :: rest, frame, atomics => do
    let entry ← c.object index.toNat
    if entry.object.isKernelContext then bindArgs c m rest (frame ++ [.kernelContext]) atomics
    else if entry.atomic then do
      let base := (UInt32.ofNat atomics.length).toInt32
      let values ← atomicValues entry.object index.toNat
      bindArgs c m rest (frame ++ [.constant (.i32 base)]) (atomics ++ values)
    else do
      let buffer ← m.boundBuffer .launchArgument index.toNat
      bindArgs c m rest (frame ++ [.buffer buffer]) atomics

/-- The frame of a call wrapper, emptied. -/
def emptyFrame (frames : Table UInt32 (List KernelArg)) (wrapper : UInt32) : List KernelArg :=
  ((frames.get? wrapper).getD []).take 0

/-- Write the atomics of a launch, if it has any; the results are their buffer and the events of the
write. -/
def sendAtomics (atomics : List Int32) : MachineOp (Option DeviceBuffer × List EventId) :=
  if atomics.isEmpty then pure (none, [])
  else do
    let (buffer, written) ← Session.onDevice (Device.writeAtomics atomics [])
    pure (some buffer, written)

/-- The grid of a launch: the scheduled or declared one, resized to the threads of a batch. -/
def launchGrid (schedule : GridSchedule) (task : Task) (batchThreads : Nat) : Grid :=
  let grid := schedule.resolve task.id task.grid
  if 0 < batchThreads then grid.withThreads batchThreads else grid

/-- A launch with everything that the device is given for it, the binary aside. -/
structure BoundLaunch where
  task : Task
  frame : List KernelArg
  atomics : Option DeviceBuffer
  grid : Grid
  wait : List EventId

/-- The binary of a launch. -/
def installedCode (l : Launch) : MachineOp Binary := do
  let s ← Op.get
  let task ← Op.ofExcept (s.context.task l.task.toNat)
  Op.ofExcept (match s.machine.cache.code l.task.toNat with
    | some code => .ok code
    | none => .error (.bailout task.id "code generator failed: no installed code"))

/-- Bind the arguments of a launch and write its atomics. -/
def bindLaunch (l : Launch) : MachineOp BoundLaunch := do
  let s ← Op.get
  let task ← Op.ofExcept (s.context.task l.task.toNat)
  Session.modifyMachine fun m => { m with frames := m.frames.erase l.wrapper }
  let (frame, values) ← Op.ofExcept
    (bindArgs s.context s.machine l.args (emptyFrame s.machine.frames l.wrapper) [])
  let wait ← waitList l.list
  let (atomics, written) ← sendAtomics values
  pure
    { task, frame, atomics
      grid := launchGrid s.machine.schedule task l.batchThreads.toNat
      wait := if s.machine.config.useDependencies then wait ++ written else wait }

/-- Enqueue the kernel of a launch; the result is its event. -/
def enqueue (l : Launch) (code : Binary) (b : BoundLaunch) : MachineOp EventId := do
  let launched ← Op.attempt (Session.onDevice
    (Device.launch code b.frame b.atomics b.grid l.offset.toNat b.wait))
  Session.modifyMachine fun m => { m with frames := m.frames.insert l.wrapper b.frame }
  match launched with
  | .error e => Op.fail (e.forTask b.task.id)
  | .ok event => do
    resetList l.list
    let s ← Op.get
    if s.machine.profiler.isEnabled then do
      addTimer .dispatch 0
      Session.onDevice (Device.waitEvents [event])
      let profile ← Session.onDevice (Device.resolveEvent event)
      addMetric .kernelTime b.task.id profile.elapsed
    else pure ()
    pure event

/-- Run a binary for a launch; the result is its event. -/
def launchWith (l : Launch) (code : Binary) : MachineOp EventId := do
  let b ← bindLaunch l
  enqueue l code b

/-- Bind the arguments and enqueue the kernel; the result is its event. -/
def dispatch (l : Launch) : MachineOp EventId := do
  let code ← installedCode l
  launchWith l code

end Offload.Machine
