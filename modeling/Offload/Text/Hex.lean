import Offload.Bytes

/-!
Hexadecimal text: byte strings with two lower-case digits a byte, and words with a fixed number of
digits, most significant first.
-/
namespace Offload.Text

def hexDigit (value : Nat) : Char :=
  if value < 10 then Char.ofNat ('0'.toNat + value) else Char.ofNat ('a'.toNat + (value - 10))

def hexValue? (c : Char) : Option Nat :=
  if c.isDigit then some (c.toNat - '0'.toNat)
  else if 'a' ≤ c ∧ c ≤ 'f' then some (c.toNat - 'a'.toNat + 10)
  else if 'A' ≤ c ∧ c ≤ 'F' then some (c.toNat - 'A'.toNat + 10)
  else none

/-- The lowest `width` hexadecimal digits of a number, highest first. -/
def hexDigits : Nat → Nat → List Char
  | 0, _ => []
  | width + 1, value => hexDigits width (value / 16) ++ [hexDigit (value % 16)]

def hexWord (width value : Nat) : String :=
  String.ofList (hexDigits width value)

def hexBytes (bytes : Bytes) : String :=
  String.ofList (bytes.flatMap fun byte => [hexDigit (byte.toNat / 16), hexDigit (byte.toNat % 16)])

private def hexBytesAux : List Char → Option Bytes
  | [] => some []
  | [_] => none
  | high :: low :: rest =>
    match hexValue? high, hexValue? low, hexBytesAux rest with
    | some h, some l, some bytes => some (UInt8.ofNat (16 * h + l) :: bytes)
    | _, _, _ => none

def parseHexBytes? (text : String) : Option Bytes :=
  hexBytesAux text.toList

/-- The number spelled by exactly `width` hexadecimal digits. -/
def parseHexWord? (width : Nat) (text : String) : Option Nat :=
  if text.length = width then
    text.toList.foldl (fun value? c => do
      let value ← value?
      let digit ← hexValue? c
      pure (16 * value + digit)) (some 0)
  else none

/-- A byte as it is named in messages: `0x` and two digits. -/
def hexByte (byte : UInt8) : String :=
  "0x" ++ hexWord 2 byte.toNat

end Offload.Text
