import Offload.Machine.Buffers
import Offload.Machine.Launch
import Offload.Machine.Transfer

/-!
Passes. A pass carries out the instructions behind BEGIN, up to END or to the end of the program. In
a warmup it only compiles. A failure stops the pass where it is; the next one starts at BEGIN again.
-/
namespace Offload.Machine

/-- Append the event of the latest producer to a list. -/
def addDependency (last : Option EventId) (list : Option UInt32) : MachineOp Unit := do
  let s ← Op.get
  match s.machine.config.useDependencies, last, list with
  | true, some event, some list =>
    Op.step fun s => (s.machine.lists.push list.toNat event).map fun lists =>
      ((), { s with machine := { s.machine with lists } })
  | _, _, _ => pure ()

/-- A marker behind the events of a list. -/
def barrier (list : Option UInt32) : MachineOp EventId := do
  let wait ← waitList list
  let marker ← Session.onDevice (Device.enqueueMarker wait)
  Op.emit ⟨.debug, none, [("event", "barrier"), ("waits", wait.length), ("marker", marker)]⟩
  resetList list
  pure marker

/-- Note that an object stays on the device. -/
def keepOnDevice (object : Nat) : MachineOp Unit := do
  let s ← Op.get
  let _ ← Op.ofExcept (s.context.object object)
  Op.emit ⟨.trace, some "on_device", [("object", object), ("device", s.machine.info.text)]⟩

/-- The end of a run: a marker behind all of it, when events are tracked. -/
def endRun : MachineOp (Option EventId) := do
  let s ← Op.get
  let marker ← if s.machine.config.useDependencies then
      some <$> Session.onDevice (Device.enqueueMarker [])
    else pure none
  if s.machine.config.flushOnEnd then Session.onDevice Device.flush else pure ()
  pure marker

def endPass (warmup : Bool) : MachineOp (Option EventId) :=
  if warmup then pure none else endRun

/-- One instruction of a run; the result is the event that a dependency would be added for. -/
def runInstruction (last : Option EventId) (offset : Nat) : Instruction → MachineOp (Option EventId)
  | .alloc batchSize objects => do
    alloc batchSize.toNat objects
    pure none
  | .dealloc object => do
    let _ ← dealloc object.toNat
    pure none
  | .transfer .inOnce t => do
    transferIn t true
    pure last
  | .transfer .inAlways t => do
    transferIn t false
    pure last
  | .transfer .outAlways t => transferOut t false
  | .transfer .outBlocking t => do
    let _ ← transferOut t true
    pure last
  | .launch l => do
    compile l
    some <$> dispatch l
  | .addDependency list => do
    addDependency last list
    pure last
  | .onDevice object => do
    keepOnDevice object.toNat
    pure none
  | .barrier list => some <$> barrier list
  | .context device => Op.fail (.malformed (.afterBegin (Instruction.context device).opcode offset))
  | .beginPass => Op.fail (.malformed (.afterBegin Instruction.beginPass.opcode offset))
  | .endPass => pure last

/-- One instruction of a warmup: launches compile, and nothing else has an effect. -/
def warmInstruction (offset : Nat) : Instruction → MachineOp Unit
  | .launch l => compile l
  | .context device => Op.fail (.malformed (.afterBegin (Instruction.context device).opcode offset))
  | .beginPass => Op.fail (.malformed (.afterBegin Instruction.beginPass.opcode offset))
  | _ => pure ()

/-- Log an instruction before it is carried out, if that is switched on. -/
def traceEntry (warmup : Bool) (entry : Entry) : MachineOp Unit := do
  let s ← Op.get
  if s.machine.config.traceCode then
    Op.emit ⟨.debug, some entry.instruction.text, [("offset", entry.offset), ("warmup", warmup)]⟩
  else pure ()

def stepEntry (warmup : Bool) (last : Option EventId) (entry : Entry) : MachineOp (Option EventId) :=
  if warmup then do
    warmInstruction entry.offset entry.instruction
    pure last
  else runInstruction last entry.offset entry.instruction

/-- Carry out instructions up to END or the last one. -/
def runEntries (warmup : Bool) (stop : ScanStop) :
    Option EventId → List Entry → MachineOp (Option EventId)
  | _, [] =>
    match stop with
    | .failed e => Op.fail (.decode e)
    | _ => endPass warmup
  | last, entry :: rest => do
    traceEntry warmup entry
    if entry.instruction = .endPass then endPass warmup
    else do
      let last ← stepEntry warmup last entry
      runEntries warmup stop last rest

/-- Get ready for a pass: empty the event lists and notice a reset of the device. -/
def startPass : MachineOp Unit := do
  Session.modifyMachine fun m => { m with lists := m.lists.resetAll }
  syncEpoch

/-- The instructions of the program from BEGIN on. -/
def runProgram (warmup : Bool) : MachineOp (Option EventId) := do
  let s ← Op.get
  runEntries warmup s.machine.program.scan.stop none s.machine.program.scan.entries

/-- Count a pass that has come to its end, and log how it went. -/
def concludePass (warmup : Bool) : Except MachineError (Option EventId) → MachineOp Unit
  | .ok _ => do
    Session.modifyMachine fun m =>
      let stats := { m.stats with recompilations := m.cache.recompilations }
      { m with
        stats :=
          if warmup then { stats with warmups := stats.warmups + 1 }
          else { stats with invocations := stats.invocations + 1 } }
    let s ← Op.get
    Op.emit ⟨.debug, some "pass_complete",
      [("warmup", warmup), ("usage", s.context.memory.usage)]⟩
  | .error e => Op.emit ⟨.error, some "pass_failed", [("error", e.message), ("kind", e.kind.name)]⟩

/-- One pass. The result of a run is the marker at its end, when events are tracked. A budget that is
exceeded already keeps the pass from starting. -/
def execute (mode : Mode) : MachineOp (Option EventId) := do
  let s ← Op.get
  let memory := s.context.memory
  if memory.exceeded then Op.fail (.outOfMemory memory.usage 0 (memory.limit.getD Text.maxUInt64))
  else do
    let warmup := mode = .warmup || s.machine.config.virtualDevice
    Op.emit (Performance.spanStart "interpreter_pass" [("warmup", warmup)])
    let result ← Op.attempt do
      startPass
      runProgram warmup
    concludePass warmup result
    Op.emit Performance.spanComplete
    Op.ofExcept result

/-- Compile every task without touching device memory. After a reset of the device this makes the
machine ready again. -/
def warmup : MachineOp Unit := do
  Session.modifyMachine fun m => { m with finishedWarmup := false }
  let _ ← execute .warmup
  Session.modifyMachine fun m => { m with finishedWarmup := true }

end Offload.Machine
