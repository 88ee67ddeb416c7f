/-!
Why a device refuses an operation.
-/
namespace Offload

inductive DeviceError where
  | invalidBuffer (id : Nat)
  | outOfBounds (offset size bufferSize : Nat)
  | invalidEvent (id : Nat)
  | invalidCode (id : Nat) (kernel : String)
  | compilationFailed (kernel reason : String)
  | unsupported (feature : String)
  | outOfMemory (requested available : Nat)
  | typeMismatch (expected actual : String)
  | invalidArgument (index : Nat) (reason : String)
  | executionError (message : String)
  | other (message : String)
  /-- A count that does not fit its word. No device answers this: whatever counts ends there. -/
  | overflow
  deriving Repr, DecidableEq

namespace DeviceError

/-- The kind of the error in one word. -/
def name : DeviceError → String
  | invalidBuffer .. => "InvalidBufferHandle"
  | outOfBounds .. => "BufferOutOfBounds"
  | invalidEvent .. => "InvalidEvent"
  | invalidCode .. => "InvalidCode"
  | compilationFailed .. => "CompilationFailed"
  | unsupported .. => "Unsupported"
  | outOfMemory .. => "OutOfDeviceMemory"
  | typeMismatch .. => "TypeMismatch"
  | invalidArgument .. => "InvalidArgument"
  | executionError .. => "ExecutionError"
  | other .. => "Other"
  | overflow => "Overflow"

def message : DeviceError → String
  | invalidBuffer id => s!"invalid buffer handle: {id}"
  | outOfBounds offset size bufferSize =>
    s!"buffer access out of bounds: offset {offset} + size {size} > buffer size {bufferSize}"
  | invalidEvent id => s!"invalid event handle: {id}"
  | invalidCode id kernel => s!"invalid installed code {id} for kernel " ++ "'" ++ kernel ++ "'"
  | compilationFailed kernel reason => "compilation of '" ++ kernel ++ "' failed: " ++ reason
  | unsupported feature => s!"unsupported feature: {feature}"
  | outOfMemory requested available =>
    s!"out of device memory: requested {requested} bytes, {available} available"
  | typeMismatch expected actual => s!"type mismatch: expected {expected}, got {actual}"
  | invalidArgument index reason => s!"invalid kernel argument {index}: {reason}"
  | executionError message => s!"execution error: {message}"
  | other message => message
  | overflow => "attempt to multiply with overflow"

end DeviceError
end Offload
