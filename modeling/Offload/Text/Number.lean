/-!
Reading numbers: natural ones, a non-empty run of ASCII digits with at most a given value, and the form
of real ones, some of which have names in letters of either case.
-/
namespace Offload.Text

/-- The text with small letters for capitals. Only the ASCII letters have a case here. -/
def lowered (text : List Char) : String :=
  String.ofList (text.map Char.toLower)

/-- The number a run of ASCII digits spells. -/
def digitsValue (digits : List Char) : Nat :=
  digits.foldl (fun value c => 10 * value + (c.toNat - '0'.toNat)) 0

/-- A non-empty run of ASCII digits with a value of at most `bound`. -/
def natural? (bound : Nat) (text : List Char) : Option Nat :=
  if text ≠ [] ∧ text.all Char.isDigit ∧ digitsValue text ≤ bound then some (digitsValue text)
  else none

/-- As `natural?`, but one plus sign may stand in front. -/
def signedNatural? (bound : Nat) : List Char → Option Nat
  | '+' :: digits => natural? bound digits
  | digits => natural? bound digits

/-- An exponent behind its letter, with or without a sign. -/
def isExponent : List Char → Bool
  | '+' :: digits => digits ≠ [] && digits.all Char.isDigit
  | '-' :: digits => digits ≠ [] && digits.all Char.isDigit
  | digits => digits ≠ [] && digits.all Char.isDigit

/-- A real number without a sign: digits, with a point among them or at their ends and an exponent behind
them or not; or infinity, or no number at all, by their names. -/
def isReal (text : List Char) : Bool :=
  lowered text ∈ ["inf", "infinity", "nan"] ||
    let whole := text.takeWhile Char.isDigit
    let (fraction, rest) := match text.dropWhile Char.isDigit with
      | '.' :: rest => (rest.takeWhile Char.isDigit, rest.dropWhile Char.isDigit)
      | rest => ([], rest)
    (whole ≠ [] || fraction ≠ []) &&
      match rest with
      | [] => true
      | 'e' :: exponent => isExponent exponent
      | 'E' :: exponent => isExponent exponent
      | _ => false

/-- The largest number that 64 bits hold. -/
def maxUInt64 : Nat := 0xffffffffffffffff

end Offload.Text
