import Offload.Text.Hex

/-!
Why program bytes cannot be decoded, and where.
-/
namespace Offload

inductive DecodeError where
  /-- The bytes end before an operand does; `offset` is where the operand starts. -/
  | truncated (offset needed available : Nat)
  | unknownOpcode (byte : UInt8) (offset : Nat)
  | unknownArgumentTag (byte : UInt8) (offset : Nat)
  /-- A size, a count or an index with a sign; `offset` is where the operand starts. -/
  | negativeOperand (field : String) (value : Int) (offset : Nat)
  deriving Repr, DecidableEq

namespace DecodeError

/-- The kind of the error in one word. -/
def name : DecodeError → String
  | truncated .. => "Truncated"
  | unknownOpcode .. => "UnknownOpcode"
  | unknownArgumentTag .. => "UnknownArgumentTag"
  | negativeOperand .. => "NegativeOperand"

def offset : DecodeError → Nat
  | truncated offset _ _ => offset
  | unknownOpcode _ offset => offset
  | unknownArgumentTag _ offset => offset
  | negativeOperand _ _ offset => offset

def message : DecodeError → String
  | truncated offset needed available =>
    s!"truncated operand at offset {offset}: needed {needed} bytes, {available} available"
  | unknownOpcode byte offset => s!"unknown opcode {Text.hexByte byte} at offset {offset}"
  | unknownArgumentTag byte offset => s!"unknown argument tag {Text.hexByte byte} at offset {offset}"
  | negativeOperand field value offset => s!"negative {field} operand {value} at offset {offset}"

end DecodeError
end Offload
