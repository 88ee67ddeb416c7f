/-!
Records that operations leave for an observer. They are output only: no operation reads them back. When
something happened is not recorded, and where the records go is up to the observer.
-/
namespace Offload

inductive LogLevel where
  | trace
  | debug
  | info
  | warn
  | error
  deriving Repr, DecidableEq

def LogLevel.name : LogLevel → String
  | trace => "TRACE"
  | debug => "DEBUG"
  | info => "INFO"
  | warn => "WARN"
  | error => "ERROR"

/-- The value of a field. A real number is kept as its binary64 bits. -/
inductive LogValue where
  | number (value : Int)
  | flag (value : Bool)
  | text (value : String)
  | real (bits : UInt64)
  deriving Repr, DecidableEq

/-- Fields by name. -/
abbrev LogFields := List (String × LogValue)

structure LogEvent where
  level : LogLevel
  message : Option String
  fields : LogFields
  deriving Repr, DecidableEq

/-- Events in the order in which they happened. -/
abbrev Log := List LogEvent

instance : Coe Nat LogValue := ⟨fun n => .number n⟩
instance : Coe Bool LogValue := ⟨.flag⟩
instance : Coe String LogValue := ⟨.text⟩

end Offload
