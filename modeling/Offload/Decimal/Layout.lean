import Offload.Decimal.Shortest

/-!
Text of floating-point numbers: the shortest digits, laid out positionally or with an exponent.
-/
namespace Offload.Decimal

/-- How numbers are laid out. -/
structure Layout where
  /-- Numbers from `10 ^ positionalFrom` up to `10 ^ positionalBelow` have no exponent; `none` stands
  for all numbers. -/
  positional : Option (Int × Int)
  /-- Whether an integral number shows a fraction of zero. -/
  showsFraction : Bool

/-- Plain text: never an exponent, no fraction for integral numbers. -/
def plain : Layout := ⟨none, false⟩

/-- Detailed text: a fraction always shows, and very large or small numbers have an exponent. -/
def detailed : Layout := ⟨some (-4, 16), true⟩

def digitText (n : Nat) : String :=
  toString n

def zeroText (count : Nat) : String :=
  String.ofList (List.replicate count '0')

/-- `digits` with the point set by the exponent. -/
def positionalText (showsFraction : Bool) (s : Scientific) : String :=
  let digits := digitText s.digits
  if 0 ≤ s.exponent then
    digits ++ zeroText s.exponent.toNat ++ (if showsFraction then ".0" else "")
  else
    let places := (-s.exponent).toNat
    let chars := digits.toList
    if chars.length ≤ places then "0." ++ zeroText (places - chars.length) ++ digits
    else
      String.ofList (chars.take (chars.length - places)) ++ "." ++
        String.ofList (chars.drop (chars.length - places))

/-- One digit, the others as a fraction, and the exponent of the first. -/
def exponentText (s : Scientific) : String :=
  let chars := (digitText s.digits).toList
  let fraction := if chars.length = 1 then "" else "." ++ String.ofList (chars.drop 1)
  String.ofList (chars.take 1) ++ fraction ++ "e" ++ toString (s.exponent + (chars.length - 1 : Nat))

/-- The exponent of the first digit. -/
def Scientific.order (s : Scientific) : Int :=
  s.exponent + ((digitText s.digits).length - 1 : Nat)

def Layout.render (layout : Layout) (format : BinaryFormat) (bits : Nat) : String :=
  match format.decode bits with
  | .nan => "NaN"
  | .infinite negative => (if negative then "-" else "") ++ "inf"
  | .finite negative mantissa exponent =>
    let sign := if negative then "-" else ""
    if mantissa = 0 then sign ++ (if layout.showsFraction then "0.0" else "0")
    else
      let s := format.shortest mantissa exponent
      let body := match layout.positional with
        | none => positionalText layout.showsFraction s
        | some (low, high) =>
          if low ≤ s.order ∧ s.order < high then positionalText layout.showsFraction s
          else exponentText s
      sign ++ body

end Offload.Decimal
