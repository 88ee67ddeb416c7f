import Offload.Code.Decode
import Offload.Code.Listing
import Offload.Device.Basic
import Offload.Machine.Bindings
import Offload.Machine.CodeCache
import Offload.Machine.Config
import Offload.Machine.EventLists
import Offload.Machine.Profile

/-!
A machine replays one program on one device. Building one reads the header and the device
declarations up to BEGIN; from then on its program cursor stands behind BEGIN. A machine keeps what
passes share: bound buffers, binaries, argument frames and counts.
-/
namespace Offload

/-- What a pass is for. -/
inductive Mode where
  /-- Compile what the program launches and touch no device memory. -/
  | warmup
  | run
  deriving Repr, DecidableEq

/-- Counts over all passes. -/
structure MachineStats where
  invocations : Nat := 0
  warmups : Nat := 0
  compilations : Nat := 0
  /-- The forced rebuilds by the end of the last complete pass. -/
  recompilations : Nat := 0
  deriving Repr, DecidableEq

structure Machine where
  program : Cursor
  info : DeviceInfo
  /-- The epoch of the device that bindings and binaries belong to. -/
  epoch : Nat
  config : Config
  lists : EventLists
  bindings : Bindings
  cache : CodeCache
  schedule : GridSchedule := {}
  /-- The bound arguments of earlier launches, by call wrapper. -/
  frames : Table UInt32 (List KernelArg) := {}
  profiler : Profiler
  finishedWarmup : Bool := false
  stats : MachineStats := {}
  deriving Repr, DecidableEq

/-- A machine with the context and the device that it works on. -/
structure Session where
  context : Context
  device : Device
  machine : Machine

abbrev MachineOp (α : Type) := Op MachineError Session α

namespace Session

/-- An operation of the device, as a part of the work of the machine. -/
def onDevice {α : Type} (op : DeviceOp α) : MachineOp α :=
  (op.mapError MachineError.ofDevice).onPart Session.device fun device s => { s with device }

def modifyMachine (change : Machine → Machine) : MachineOp Unit :=
  Op.modify fun s => { s with machine := change s.machine }

def modifyMemory (change : MemoryBudget → MemoryBudget) : MachineOp Unit :=
  Op.modify fun s => { s with context := { s.context with memory := change s.context.memory } }

def modifyBinding (object : Nat) (change : Binding → Binding) : MachineOp Unit :=
  modifyMachine fun m => { m with bindings := m.bindings.modify object change }

def modifyProfiler (change : Profiler → Profiler) : MachineOp Unit :=
  modifyMachine fun m => { m with profiler := change m.profiler }

end Session

namespace Machine

/-- The error of decoding where a sequence of instructions stops. -/
def stopError : ScanStop → DecodeError
  | .failed e => e
  | .exhausted offset => .truncated offset 1 0
  | .ended => .truncated 0 1 0

/-- Load the device for each declaration in front of BEGIN; the result is the offset behind BEGIN. -/
def prologue (info : DeviceInfo) (stop : ScanStop) : List Entry → Op MachineError Device Nat
  | [] => Op.fail (.decode (stopError stop))
  | ⟨offset, i⟩ :: rest =>
    match i with
    | .context declared =>
      if declared.toNat = info.index then do
        Device.ensureLoaded.mapError MachineError.ofDevice
        prologue info stop rest
      else Op.fail (.malformed (.foreignDevice offset declared.toNat info.text))
    | .beginPass => pure (offset + 1)
    | other => Op.fail (.malformed (.beforeBegin other.opcode offset))

/-- Where a machine is built. -/
abbrev Site := Context × Device

def onSiteDevice {α : Type} (op : Op MachineError Device α) : Op MachineError Site α :=
  op.onPart Prod.snd fun device site => (site.1, device)

/-- Bind a program to a device and a context. -/
def create (bytes : Bytes) (config : Config) : Op MachineError Site Machine := do
  match Cursor.readHeader (.ofBytes bytes) with
  | ⟨.error e, _, _⟩ => Op.fail (.decode e)
  | ⟨.ok header, cursor, _⟩ =>
    let (_, device) ← Op.get
    let position ← onSiteDevice (prologue device.info cursor.scan.stop cursor.scan.entries)
    Op.modify fun (context, device) =>
      match config.memoryLimit with
      | some limit => ({ context with memory := context.memory.setLimit (some limit) }, device)
      | none => (context, device)
    let (context, _) ← Op.get
    Op.emit ⟨.info, some "interpreter_created",
      [("context", context.name), ("device", device.info.text), ("event_lists", header.eventLists)]⟩
    pure
      { program := { cursor with position, marked := position }
        info := device.info
        epoch := device.epoch
        config
        lists := .create header.eventLists config.maxEvents
        bindings := .ofContext context
        cache := .create context.tasks.length
        profiler := .create config.profiler }

/-- The lines of the program, one for each instruction. -/
def listing (m : Machine) : Except MachineError (List String) :=
  match disassemble m.program.bytes with
  | .error e => .error (.decode e)
  | .ok entries => .ok (entries.map fun entry => entry.instruction.listingLine entry.offset)

/-- Change the configuration. Another capacity empties the event lists. -/
def setConfig (config : Config) : MachineOp Unit := do
  Session.modifyMachine fun m =>
    if config.maxEvents = m.config.maxEvents then { m with config }
    else { m with config, lists := .create m.lists.size config.maxEvents }
  match config.memoryLimit with
  | some limit => Session.modifyMemory fun b => b.setLimit (some limit)
  | none => pure ()

def setProfiler (profiler : Profiler) : MachineOp Unit :=
  Session.modifyProfiler fun _ => profiler

/-- Have every task rebuilt whose grid is another one in `schedule`. -/
def rebuildChanged (schedule : GridSchedule) : Nat → List Task → MachineOp Unit
  | _, [] => pure ()
  | index, task :: rest => do
    let s ← Op.get
    if s.machine.schedule.get? task.id = schedule.get? task.id then pure ()
    else do
      Session.modifyMachine fun m => { m with cache := m.cache.forceRecompile index }
      Op.emit ⟨.debug, some "grid_changed", [("task", task.id)]⟩
    rebuildChanged schedule (index + 1) rest

/-- Run tasks with the grids of a schedule from now on. -/
def setSchedule (schedule : GridSchedule) : MachineOp Unit := do
  let s ← Op.get
  rebuildChanged schedule 0 s.context.tasks
  Session.modifyMachine fun m => { m with schedule }

/-- Drop every binary; the next launch of each task compiles again. -/
def clearCode : MachineOp Unit :=
  Session.modifyMachine fun m => { m with cache := m.cache.clear }

/-- Forget bound buffers that the device does not hold any more; the result is their bytes. -/
def forgetBuffers : MachineOp Nat := do
  let s ← Op.get
  let bytes := s.machine.bindings.boundBytes
  Session.modifyMachine fun m => { m with bindings := m.bindings.unbindAll, frames := {} }
  Session.modifyMemory fun b => b.sub bytes
  pure bytes

/-- Notice a reset of the device: before the end of a warmup it costs buffers and binaries, after it
the pass cannot go on. -/
def syncEpoch : MachineOp Unit := do
  let s ← Op.get
  if s.device.epoch = s.machine.epoch then pure ()
  else if s.machine.finishedWarmup then Op.fail (.deviceReset s.machine.info.text)
  else do
    Op.emit ⟨.warn, some "device was reset, dropping binaries and buffers",
      [("device", s.machine.info.text)]⟩
    let _ ← forgetBuffers
    clearCode
    Session.modifyMachine fun m => { m with epoch := s.device.epoch }

/-- The name of an object in metrics. -/
def objectKey (object : Nat) : String :=
  s!"obj[{object}]"

def addMetric (kind : MetricKind) (key : String) (value : Nat) : MachineOp Unit :=
  Session.modifyProfiler fun p => p.addMetric kind key value

def addTimer (kind : TimerKind) (nanoseconds : Nat) : MachineOp Unit :=
  Session.modifyProfiler fun p => p.addTimer kind nanoseconds

/-- Empty the event list that a consumer has used. -/
def resetList (list : Option UInt32) : MachineOp Unit :=
  Op.step fun s => (s.machine.lists.reset (list.map UInt32.toNat)).map fun lists =>
    ((), { s with machine := { s.machine with lists } })

/-- The events that a consumer of a list waits for. -/
def waitList (list : Option UInt32) : MachineOp (List EventId) := do
  let s ← Op.get
  Op.ofExcept (s.machine.lists.waitList (list.map UInt32.toNat) s.machine.config.useDependencies)

/-- The buffer an object is bound to. -/
def boundBuffer (m : Machine) (use : BufferUse) (object : Nat) : Except MachineError DeviceBuffer := do
  let binding ← m.bindings.get object
  match binding.buffer with
  | some buffer => .ok buffer
  | none => .error (.malformed (.unbound use object))

end Machine
end Offload
