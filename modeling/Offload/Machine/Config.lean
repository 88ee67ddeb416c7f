import Offload.Machine.Error
import Offload.Op
import Offload.Text.Size

/-!
The switches that a machine consults, and reading them from named variables. A variable without a
usable value leaves its switch alone and is reported.
-/
namespace Offload

structure Config where
  /-- The capacity of each event list. -/
  maxEvents : Nat := 32
  useDependencies : Bool := true
  flushOnEnd : Bool := false
  /-- Log every instruction of a pass. -/
  traceCode : Bool := false
  /-- Compile only, in every pass. -/
  virtualDevice : Bool := false
  profiler : Bool := false
  memoryLimit : Option Nat := none
  deriving Repr, DecidableEq

/-- Variables by name. -/
abbrev Environment := List (String × String)

def Environment.get? (env : Environment) (name : String) : Option String :=
  (env.find? fun entry => entry.1 = name).map (·.2)

/-- A size in bytes, or the error that quotes the text. -/
def parseByteSize (text : String) : Except MachineError Nat :=
  match Text.parseSize? text with
  | some size => .ok size
  | none => .error (.invalidConfig ("invalid size '" ++ text ++ "'"))

namespace Config

/-- The truth value a text spells, whatever its case. -/
def flag? (text : String) : Option Bool :=
  let word := String.ofList ((Text.trim text.toList).map Char.toLower)
  if word ∈ ["1", "true", "yes", "on"] then some true
  else if word ∈ ["0", "false", "no", "off"] then some false
  else none

/-- The value of a variable, unless it is blank. -/
def setting? (env : Environment) (name : String) : Option String :=
  (env.get? name).filter fun value => !Text.isAllBlank value.toList

/-- An operation on a configuration. -/
abbrev Settings := Op MachineError Config Unit

def warning (message name : String) (field : String) (value : String) : Settings :=
  Op.emit ⟨.warn, some message, [("variable", name), (field, value)]⟩

/-- Set a switch from a variable. -/
def readFlag (env : Environment) (name : String) (set : Bool → Config → Config) : Settings :=
  match setting? env name with
  | none => pure ()
  | some value =>
    match flag? value with
    | some flag => Op.modify (set flag)
    | none => warning "ignoring invalid flag" name "value" value

def readMaxEvents (env : Environment) : Settings :=
  match setting? env "XPUVM_MAX_EVENTS" with
  | none => pure ()
  | some value =>
    match Text.signedNatural? Text.maxUInt64 value.toList with
    | some (count + 1) => Op.modify fun c => { c with maxEvents := count + 1 }
    | _ => warning "ignoring invalid value" "XPUVM_MAX_EVENTS" "value" value

def readMemoryLimit (env : Environment) : Settings :=
  match setting? env "XPUVM_MEMORY_LIMIT" with
  | none => pure ()
  | some value =>
    match parseByteSize value with
    | .ok limit => Op.modify fun c => { c with memoryLimit := some limit }
    | .error e => warning "ignoring invalid value" "XPUVM_MEMORY_LIMIT" "error" e.message

/-- Set every switch that a variable names. -/
def readEnvironment (env : Environment) : Settings := do
  readMaxEvents env
  readFlag env "XPUVM_USE_DEPS" fun flag c => { c with useDependencies := flag }
  readFlag env "XPUVM_FLUSH" fun flag c => { c with flushOnEnd := flag }
  readFlag env "XPUVM_PRINT_BYTECODES" fun flag c => { c with traceCode := flag }
  readFlag env "XPUVM_VIRTUAL_DEVICE" fun flag c => { c with virtualDevice := flag }
  readFlag env "XPUVM_PROFILER" fun flag c => { c with profiler := flag }
  readMemoryLimit env

end Config
end Offload
