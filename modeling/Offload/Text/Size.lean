import Offload.Text.Blank
import Offload.Text.Number

/-!
Sizes in bytes as people write them: digits and a unit. Units are powers of 1024 and ignore case.
-/
namespace Offload.Text

/-- The power of 1024 a unit stands for. -/
def unitPower? (unit : List Char) : Option Nat :=
  match String.ofList (unit.map Char.toUpper) with
  | "" => some 0
  | "B" => some 0
  | "K" => some 1
  | "KB" => some 1
  | "M" => some 2
  | "MB" => some 2
  | "G" => some 3
  | "GB" => some 3
  | "T" => some 4
  | "TB" => some 4
  | _ => none

/-- The number of bytes, when it fits 64 bits. Blanks may stand around the text and before the
unit. -/
def parseSize? (text : String) : Option Nat := do
  let trimmed := trim text.toList
  let value ← natural? maxUInt64 (trimmed.takeWhile Char.isDigit)
  let power ← unitPower? (trim (trimmed.dropWhile Char.isDigit))
  let size := value * Nat.pow 1024 power
  if size ≤ maxUInt64 then some size else none

end Offload.Text
