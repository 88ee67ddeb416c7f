import Offload.Code.Error
import Offload.Code.Opcode
import Offload.Device.Error

/-!
Why a machine stops. Errors fall into broad kinds; a device error keeps its meaning where the machine
has a word of its own for it.
-/
namespace Offload

/-- What a device buffer was needed for. -/
inductive BufferUse where
  | copyIn
  | copyOut
  | launchArgument
  deriving Repr, DecidableEq

def BufferUse.text : BufferUse → String
  | copyIn => "host to device transfer"
  | copyOut => "device to host transfer"
  | launchArgument => "LAUNCH argument"

/-- What is wrong with a program or its tables. -/
inductive Malformed where
  | objectOutOfRange (index count : Nat)
  | constantOutOfRange (index count : Nat)
  | taskOutOfRange (index count : Nat)
  | listOutOfRange (index count : Nat)
  | noBinding (object : Nat)
  /-- A declaration of a device other than the one of the machine. -/
  | foreignDevice (offset declared : Nat) (bound : String)
  | beforeBegin (opcode : Opcode) (offset : Nat)
  | afterBegin (opcode : Opcode) (offset : Nat)
  | unbound (use : BufferUse) (object : Nat)
  | pastEnd (offset object size : Nat)
  | notAtomic (object : Nat) (found : String)
  deriving Repr, DecidableEq

def Malformed.message : Malformed → String
  | objectOutOfRange index count => s!"object index {index} out of range ({count} objects)"
  | constantOutOfRange index count => s!"constant index {index} out of range ({count} constants)"
  | taskOutOfRange index count => s!"task index {index} out of range ({count} tasks)"
  | listOutOfRange index count => s!"event list {index} out of range ({count} lists)"
  | noBinding object => s!"no buffer state for object {object}"
  | foreignDevice offset declared bound =>
    s!"CONTEXT at offset {offset} declares device {declared} but the interpreter is bound to {bound}"
  | beforeBegin opcode offset => s!"{opcode.mnemonic} at offset {offset} before BEGIN"
  | afterBegin opcode offset => s!"{opcode.mnemonic} at offset {offset} after BEGIN"
  | unbound use object => s!"{use.text} of obj[{object}] before ALLOC"
  | pastEnd offset object size =>
    s!"transfer offset {offset} past the end of obj[{object}] ({size} bytes)"
  | notAtomic object found => s!"atomic obj[{object}] must hold i32 values, found {found}"

/-- The classes of failure that callers tell apart. -/
inductive ErrorKind where
  | malformedProgram
  | resourceExhaustion
  | compilationFailure
  | deviceInconsistency
  | unsupportedFeature
  | configuration
  | backend
  deriving Repr, DecidableEq

def ErrorKind.name : ErrorKind → String
  | malformedProgram => "MalformedProgram"
  | resourceExhaustion => "ResourceExhaustion"
  | compilationFailure => "CompilationFailure"
  | deviceInconsistency => "DeviceInconsistency"
  | unsupportedFeature => "UnsupportedFeature"
  | configuration => "Configuration"
  | backend => "Backend"

inductive MachineError where
  | decode (error : DecodeError)
  | malformed (fault : Malformed)
  | listOverflow (list capacity : Nat)
  | outOfMemory (usage requested limit : Nat)
  | deviceOutOfMemory (requested available : Nat)
  /-- A kernel could not be compiled or dispatched. -/
  | bailout (task reason : String)
  /-- The device was reset behind a machine that had finished its warmup. -/
  | deviceReset (info : String)
  | unsupported (feature : String)
  | invalidConfig (message : String)
  | unknownDevice (index : Nat)
  | device (error : DeviceError)
  deriving Repr, DecidableEq

namespace MachineError

/-- What stopped the machine, in one word. -/
def name : MachineError → String
  | decode .. => "Decode"
  | malformed .. => "MalformedProgram"
  | listOverflow .. => "EventListOverflow"
  | outOfMemory .. => "OutOfMemory"
  | deviceOutOfMemory .. => "DeviceOutOfMemory"
  | bailout .. => "Bailout"
  | deviceReset .. => "DeviceReset"
  | unsupported .. => "Unsupported"
  | invalidConfig .. => "InvalidConfig"
  | unknownDevice .. => "UnknownDevice"
  | device .. => "Backend"

/-- The name of the error that this one passes on. -/
def cause? : MachineError → Option String
  | decode error => some error.name
  | device error => some error.name
  | _ => none

def message : MachineError → String
  | decode error => s!"malformed bytecode: {error.message}"
  | malformed fault => s!"malformed program: {fault.message}"
  | listOverflow list capacity => s!"event list {list} is too small: capacity {capacity}"
  | outOfMemory usage requested limit =>
    s!"out of memory: usage {usage} + requested {requested} bytes exceeds the execution plan limit " ++
      s!"of {limit} bytes"
  | deviceOutOfMemory requested available =>
    s!"out of device memory: requested {requested} bytes, {available} available"
  | bailout task reason => "bailout: unable to run task '" ++ task ++ "': " ++ reason
  | deviceReset info => s!"reset() was called after warmup() on device {info}"
  | unsupported feature => s!"unsupported feature: {feature}"
  | invalidConfig message => s!"invalid configuration: {message}"
  | unknownDevice index => s!"no device registered at index {index}"
  | device error => s!"backend error: {error.message}"

def kind : MachineError → ErrorKind
  | decode _ => .malformedProgram
  | malformed _ => .malformedProgram
  | listOverflow _ _ => .malformedProgram
  | outOfMemory _ _ _ => .resourceExhaustion
  | deviceOutOfMemory _ _ => .resourceExhaustion
  | bailout _ _ => .compilationFailure
  | deviceReset _ => .deviceInconsistency
  | unsupported _ => .unsupportedFeature
  | invalidConfig _ => .configuration
  | unknownDevice _ => .configuration
  | device _ => .backend

/-- Whether the same program may succeed on another device. -/
def isRecoverable (e : MachineError) : Bool :=
  e.kind = .compilationFailure || e.kind = .unsupportedFeature

/-- What a failure of the device means for the machine. -/
def ofDevice : DeviceError → MachineError
  | .compilationFailed kernel reason => bailout kernel reason
  | .unsupported feature => unsupported feature
  | .outOfMemory requested available => deviceOutOfMemory requested available
  | other => device other

/-- Name the task in a compilation failure; other errors stay as they are. -/
def forTask (task : String) : MachineError → MachineError
  | bailout _ reason => bailout task reason
  | other => other

end MachineError
end Offload
