import Offload.Device.Grid
import Offload.Host.Scalar

/-!
What a device hands out and takes in: buffers, events, binaries, arguments and the tasks to compile.
-/
namespace Offload

abbrev BufferId := Nat

abbrev EventId := Nat

abbrev CodeId := Nat

/-- A device buffer as its holder knows it. -/
structure DeviceBuffer where
  id : BufferId
  size : Nat
  deriving Repr, DecidableEq

def DeviceBuffer.text (b : DeviceBuffer) : String :=
  s!"buf{b.id}({b.size}B)"

/-- The host bytes of a copy. On the device a copy always starts at the first byte of the buffer. -/
structure HostRange where
  offset : Nat
  size : Nat
  deriving Repr, DecidableEq

/-- A whole object of `size` bytes. -/
def HostRange.full (size : Nat) : HostRange :=
  ⟨0, size⟩

/-- One bound argument of a kernel. -/
inductive KernelArg where
  | constant (value : Scalar)
  | buffer (value : DeviceBuffer)
  | kernelContext
  deriving Repr, DecidableEq

/-- The form in which messages name an argument. -/
def KernelArg.describe : KernelArg → String
  | constant value => s!"Constant({value.describe})"
  | buffer value =>
    s!"Buffer(DeviceBuffer \x7b handle: BufferHandle({value.id}), size: {value.size} \x7d)"
  | kernelContext => "KernelContext"

/-- One task of a context. -/
structure Task where
  id : String
  kernel : String
  device : Nat := 0
  grid : Grid := {}
  /-- The kernel stores the number of the batch, so that each batch needs a binary of its own. -/
  writesLoopIndex : Bool := false
  usesDouble : Bool := false
  deriving Repr, DecidableEq

/-- What a compilation is asked for. -/
structure CompileRequest where
  task : Task
  taskIndex : Nat
  batchThreads : Nat
  batchSize : Nat
  batchNumber : Nat
  /-- The grid in place of the task's own, when one is scheduled. -/
  grid : Option Grid
  force : Bool
  deriving Repr, DecidableEq

/-- A compiled kernel. -/
structure Binary where
  id : CodeId
  kernel : String
  /-- How often the device had been reset when the binary was built. -/
  epoch : Nat
  batchThreads : Nat := 0
  batchSize : Nat := 0
  batchNumber : Nat := 0
  valid : Bool := true
  deriving Repr, DecidableEq

def Binary.invalidate (b : Binary) : Binary :=
  { b with valid := false }

structure DeviceInfo where
  name : String := "cpu"
  index : Nat := 0
  supportsDouble : Bool := true
  globalMemory : Nat := 0x40000000
  deriving Repr, DecidableEq

def DeviceInfo.text (i : DeviceInfo) : String :=
  s!"{i.name} [{i.index}]"

inductive EventStatus where
  | queued
  | running
  | complete
  deriving Repr, DecidableEq

namespace EventStatus

def name : EventStatus → String
  | queued => "Queued"
  | running => "Running"
  | complete => "Complete"

def ofName? (text : String) : Option EventStatus :=
  [queued, running, complete].find? fun status => status.name = text

end EventStatus

/-- The state of an event and the times of its stages, in nanoseconds. A device has no clock: the times
that it tells are zero. -/
structure EventProfile where
  status : EventStatus
  queued : Nat := 0
  submitted : Nat := 0
  started : Nat := 0
  finished : Nat := 0
  deriving Repr, DecidableEq

namespace EventProfile

def isComplete (p : EventProfile) : Bool :=
  p.status = .complete

/-- The time on the device. -/
def elapsed (p : EventProfile) : Nat :=
  p.finished - p.started

/-- The time from the request to the submission. -/
def dispatch (p : EventProfile) : Nat :=
  p.submitted - p.queued

end EventProfile
end Offload
