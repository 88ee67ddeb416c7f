import Offload.Device.Events
import Offload.Host.Object
import Offload.Kernel.Program
import Offload.Op
import Offload.Performance

/-!
A device: memory, events, kernels by name, and counts of what it was asked to do. Copies and launches
take effect when they are requested; only their completion can be deferred. A reset drops buffers,
events and binaries for good, because ids and epochs are never used again.
-/
namespace Offload

/-- How often each operation succeeded, and how many bytes were copied. -/
structure DeviceCounters where
  loads : Nat := 0
  resets : Nat := 0
  allocations : Nat := 0
  deallocations : Nat := 0
  copiesIn : Nat := 0
  bytesIn : Nat := 0
  copiesOut : Nat := 0
  bytesOut : Nat := 0
  atomicsWrites : Nat := 0
  compilations : Nat := 0
  launches : Nat := 0
  markers : Nat := 0
  waits : Nat := 0
  flushes : Nat := 0
  deriving Repr, DecidableEq

/-- The operations that touch device memory or the command queue. -/
def DeviceCounters.deviceWork (c : DeviceCounters) : Nat :=
  c.allocations + c.deallocations + c.copiesIn + c.copiesOut + c.atomicsWrites + c.launches + c.markers

/-- A compilation as it was requested. -/
structure CompileRecord where
  kernel : String
  taskIndex : Nat
  batchThreads : Nat
  batchSize : Nat
  batchNumber : Nat
  grid : Option Grid
  forced : Bool
  deriving Repr, DecidableEq

structure Device where
  info : DeviceInfo := {}
  memory : Memory := { capacity := 0x40000000 }
  events : EventTable := {}
  kernels : Table String Kernel := {}
  /-- Kernels whose compilation fails. -/
  failing : List String := []
  compileLog : List CompileRecord := []
  /-- The latest markers and the events each one waits for, oldest first. -/
  markerLog : List (EventId × List EventId) := []
  /-- The buffer that atomics are written to. -/
  atomics : Option DeviceBuffer := none
  counters : DeviceCounters := {}
  /-- How often the device was reset. -/
  epoch : Nat := 0
  loaded : Bool := false
  nextCode : CodeId := 1
  reports : List KernelReport := []

/-- How many markers the marker log holds at most. -/
def markerLogCapacity : Nat := 256

/-- An operation of a device. -/
abbrev DeviceOp (α : Type) := Op DeviceError Device α

namespace Device

/-- A device as it is before anything was asked of it. -/
def create (info : DeviceInfo) (deferred : Bool) : Device :=
  { info, memory := { capacity := info.globalMemory }, events := { deferred } }

def registerKernel (d : Device) (name : String) (kernel : Kernel) : Device :=
  { d with kernels := d.kernels.insert name kernel }

def failCompilationOf (d : Device) (name : String) : Device :=
  { d with failing := name :: d.failing }

/-- A step of the memory. -/
def onMemory {α : Type} (change : Memory → Except DeviceError (α × Memory)) : DeviceOp α :=
  Op.step fun d => (change d.memory).map fun (a, memory) => (a, { d with memory })

/-- A step of the event table. -/
def onEvents {α : Type} (change : EventTable → Except DeviceError (α × EventTable)) : DeviceOp α :=
  Op.step fun d => (change d.events).map fun (a, events) => (a, { d with events })

def count (change : DeviceCounters → DeviceCounters) : DeviceOp Unit :=
  Op.modify fun d => { d with counters := change d.counters }

/-- Load the device unless it is loaded. -/
def ensureLoaded : DeviceOp Unit := do
  let d ← Op.get
  if d.loaded then pure ()
  else do
    Op.modify fun d => { d with loaded := true }
    count fun c => { c with loads := c.loads + 1 }
    Op.emit ⟨.debug, some "device_loaded", [("device", d.info.text)]⟩

def reset : DeviceOp Unit := do
  let d ← Op.get
  let epoch := d.epoch + 1
  Op.modify fun d =>
    { d with
      memory := d.memory.clear
      events := d.events.clear
      markerLog := []
      atomics := none
      epoch }
  count fun c => { c with resets := c.resets + 1 }
  Op.emit ⟨.debug, some "device_reset", [("device", d.info.text), ("epoch", epoch)]⟩

/-- Buffers of these sizes, all of them or none. -/
def allocate (sizes : List Nat) : DeviceOp (List DeviceBuffer) := do
  let buffers ← onMemory fun m => m.allocate sizes
  count fun c => { c with allocations := c.allocations + 1 }
  Op.emit ⟨.trace, some "cpu_allocate", [("buffers", buffers.length), ("bytes", sizes.sum)]⟩
  pure buffers

/-- Give a buffer back; the result is its size. -/
def deallocate (buffer : DeviceBuffer) : DeviceOp Nat := do
  let freed ← onMemory fun m => m.free buffer.id
  count fun c => { c with deallocations := c.deallocations + 1 }
  pure freed

/-- Overwrite the first bytes of a buffer. -/
def writeBuffer (id : BufferId) (data : Bytes) : DeviceOp Unit :=
  onMemory fun m => (m.write id data).map fun m => ((), m)

def recordEvent (kind : EventKind) (wait : List EventId) : DeviceOp EventId :=
  onEvents fun t => t.record kind wait

/-- Copy a range of a host object to the start of a buffer. -/
def streamIn (object : HostObject) (buffer : DeviceBuffer) (range : HostRange) (wait : List EventId) :
    DeviceOp (List EventId) := do
  let data ← Op.ofExcept (object.readRange range.offset range.size)
  writeBuffer buffer.id data
  let event ← recordEvent .write wait
  count fun c => { c with copiesIn := c.copiesIn + 1, bytesIn := c.bytesIn + range.size }
  Op.emit (Performance.transfer range.size .hostToDevice none)
  pure [event]

/-- An operation of a device on a host object. -/
abbrev CopyOut (α : Type) := Op DeviceError (HostObject × Device) α

def onDevice {α : Type} (op : DeviceOp α) : CopyOut α :=
  op.onPart Prod.snd fun d s => (s.1, d)

/-- Copy the start of a buffer to a range of the host object. -/
def streamOut (buffer : DeviceBuffer) (range : HostRange) (wait : List EventId) : CopyOut EventId := do
  let s ← Op.get
  let data ← Op.ofExcept (s.2.memory.read buffer.id range.size)
  Op.step fun s => (s.1.writeRange range.offset data).map fun object => ((), (object, s.2))
  onDevice do
    let event ← recordEvent .read wait
    count fun c => { c with copiesOut := c.copiesOut + 1, bytesOut := c.bytesOut + range.size }
    Op.emit (Performance.transfer range.size .deviceToHost none)
    pure event

def drainAll : List EventId → DeviceOp Unit
  | [] => pure ()
  | id :: rest => do
    onEvents fun t => (t.drain id).map fun t => ((), t)
    drainAll rest

/-- Wait on the host until the events are complete. -/
def waitEvents (events : List EventId) : DeviceOp Unit := do
  drainAll events
  count fun c => { c with waits := c.waits + 1 }

/-- Copy to the host and wait for the copy. -/
def streamOutBlocking (buffer : DeviceBuffer) (range : HostRange) (wait : List EventId) :
    CopyOut EventId := do
  let event ← streamOut buffer range wait
  onDevice (waitEvents [event])
  pure event

/-- Whether the device can compile a task. -/
def checkTask (d : Device) (task : Task) : Except DeviceError Unit :=
  if ¬ d.kernels.contains task.kernel then
    .error (.compilationFailed task.kernel "kernel is not registered")
  else if task.kernel ∈ d.failing then
    .error (.compilationFailed task.kernel "code generation failed")
  else if task.usesDouble ∧ ¬ d.info.supportsDouble then
    .error (.unsupported ("fp64 required by '" ++ task.id ++ "' on " ++ d.info.text))
  else .ok ()

/-- Build a binary for a task. -/
def installCode (request : CompileRequest) : DeviceOp Binary := do
  let d ← Op.get
  Op.ofExcept (d.checkTask request.task)
  let code : Binary :=
    { id := d.nextCode
      kernel := request.task.kernel
      epoch := d.epoch
      batchThreads := request.batchThreads
      batchSize := request.batchSize
      batchNumber := request.batchNumber }
  Op.modify fun d =>
    { d with
      nextCode := d.nextCode + 1
      compileLog := d.compileLog ++
        [⟨request.task.kernel, request.taskIndex, request.batchThreads, request.batchSize,
          request.batchNumber, request.grid, request.force⟩] }
  count fun c => { c with compilations := c.compilations + 1 }
  Op.emit (Performance.compilation request.task.id request.force none)
  pure code

/-- A buffer of `size` bytes to write atomics to. -/
def newAtomics (size : Nat) : DeviceOp DeviceBuffer := do
  let buffer ← onMemory fun m => do
    m.reserve size
    pure (m.addBuffer size)
  Op.modify fun d => { d with atomics := some buffer }
  pure buffer

/-- The atomics buffer, if it is large enough, or else a new one in its place. -/
def atomicsBuffer (size : Nat) : DeviceOp DeviceBuffer := do
  let d ← Op.get
  match d.atomics with
  | none => newAtomics size
  | some existing =>
    if size ≤ existing.size then pure existing
    else do
      let _ ← onMemory fun m => m.free existing.id
      newAtomics size

/-- Write the atomics of a launch. -/
def writeAtomics (values : List Int32) (wait : List EventId) :
    DeviceOp (DeviceBuffer × List EventId) := do
  let buffer ← atomicsBuffer (4 * values.length)
  writeBuffer buffer.id (Bytes.ofWords 4 (values.map fun v => v.toUInt32.toNat))
  let event ← recordEvent .write wait
  count fun c => { c with atomicsWrites := c.atomicsWrites + 1 }
  pure (buffer, [event])

/-- Run a kernel. What it wrote and reported stays, also when it fails. -/
def runKernel (kernel : Kernel) (v : Invocation) : DeviceOp Unit := fun d =>
  match (kernel v).run v d.memory with
  | ⟨result, memory, reports⟩ => ⟨result, { d with memory, reports := d.reports ++ reports }, []⟩

/-- The kernel of a binary that is still good. -/
def kernelOf (d : Device) (code : Binary) : Except DeviceError Kernel :=
  if ¬ code.valid ∨ code.epoch ≠ d.epoch then .error (.invalidCode code.id code.kernel)
  else
    match d.kernels.get? code.kernel with
    | some kernel => .ok kernel
    | none => .error (.compilationFailed code.kernel "kernel is not registered")

/-- Run the kernel of a binary. Its threads are counted first; where they cannot be, nothing runs. -/
def launch (code : Binary) (frame : List KernelArg) (atomics : Option DeviceBuffer) (grid : Grid)
    (globalOffset : Nat) (wait : List EventId) : DeviceOp EventId := do
  let d ← Op.get
  let kernel ← Op.ofExcept (d.kernelOf code)
  let v := Invocation.ofLaunch code frame atomics grid globalOffset
  let threads ← Op.ofExcept v.threads
  runKernel kernel v
  let event ← recordEvent .launch wait
  count fun c => { c with launches := c.launches + 1 }
  Op.emit (Performance.launch code.kernel threads none)
  pure event

/-- Add a marker to the log; a full log first loses its older half. -/
def logMarker (log : List (EventId × List EventId)) (entry : EventId × List EventId) :
    List (EventId × List EventId) :=
  (if log.length = markerLogCapacity then log.drop (markerLogCapacity / 2) else log) ++ [entry]

def enqueueMarker (wait : List EventId) : DeviceOp EventId := do
  let (marker, deps) ← onEvents fun t => t.marker wait
  count fun c => { c with markers := c.markers + 1 }
  Op.modify fun d => { d with markerLog := logMarker d.markerLog (marker, deps) }
  pure marker

def resolveEvent (id : EventId) : DeviceOp EventProfile := do
  let d ← Op.get
  Op.ofExcept (d.events.profile id)

/-- Complete a command by name. -/
def completeEvent (id : EventId) : DeviceOp Unit :=
  onEvents fun t => (t.complete id).map fun t => ((), t)

def flush : DeviceOp Unit :=
  count fun c => { c with flushes := c.flushes + 1 }

end Device
end Offload
