import Offload.Bytes
import Offload.Decimal.Layout

/-!
Element types and scalar values. Floating-point scalars are kept as their bits, so that every scalar
is given back exactly by its bytes.
-/
namespace Offload

inductive Element where
  | i8
  | char
  | i16
  | i32
  | f32
  | i64
  | f64
  deriving Repr, DecidableEq

namespace Element

/-- The bytes of one element. -/
def size : Element → Nat
  | i8 => 1
  | char => 2
  | i16 => 2
  | i32 => 4
  | f32 => 4
  | i64 => 8
  | f64 => 8

def name : Element → String
  | i8 => "i8"
  | char => "char"
  | i16 => "i16"
  | i32 => "i32"
  | f32 => "f32"
  | i64 => "i64"
  | f64 => "f64"

def ofName? (text : String) : Option Element :=
  [i8, char, i16, i32, f32, i64, f64].find? fun e => e.name = text

/-- Whether the device must support double precision. -/
def requiresDouble (e : Element) : Bool :=
  e = f64

end Element

inductive Scalar where
  | i8 (value : Int8)
  | char (value : UInt16)
  | i16 (value : Int16)
  | i32 (value : Int32)
  | f32 (bits : UInt32)
  | i64 (value : Int64)
  | f64 (bits : UInt64)
  deriving Repr, DecidableEq

namespace Scalar

def element : Scalar → Element
  | i8 _ => .i8
  | char _ => .char
  | i16 _ => .i16
  | i32 _ => .i32
  | f32 _ => .f32
  | i64 _ => .i64
  | f64 _ => .f64

/-- The word of a scalar, without a sign. -/
def word : Scalar → Nat
  | i8 value => value.toUInt8.toNat
  | char value => value.toNat
  | i16 value => value.toUInt16.toNat
  | i32 value => value.toUInt32.toNat
  | f32 bits => bits.toNat
  | i64 value => value.toUInt64.toNat
  | f64 bits => bits.toNat

/-- The scalar of an element type with that word; higher bits are dropped. -/
def ofWord (e : Element) (word : Nat) : Scalar :=
  match e with
  | .i8 => i8 (UInt8.ofNat word).toInt8
  | .char => char (UInt16.ofNat word)
  | .i16 => i16 (UInt16.ofNat word).toInt16
  | .i32 => i32 (UInt32.ofNat word).toInt32
  | .f32 => f32 (UInt32.ofNat word)
  | .i64 => i64 (UInt64.ofNat word).toInt64
  | .f64 => f64 (UInt64.ofNat word)

def bytes (s : Scalar) : Bytes :=
  Bytes.ofNatLE s.element.size s.word

/-- The scalar that a string of exactly its size spells. -/
def ofBytes? (e : Element) (bytes : Bytes) : Option Scalar :=
  if bytes.length = e.size then some (ofWord e (Bytes.toNatLE bytes)) else none

/-- The value of an integer scalar. -/
def int? : Scalar → Option Int
  | i8 value => some value.toInt
  | char value => some value.toNat
  | i16 value => some value.toInt
  | i32 value => some value.toInt
  | i64 value => some value.toInt
  | f32 _ => none
  | f64 _ => none

/-- The nearest double-precision number. -/
def toFloat : Scalar → Float
  | i8 value => value.toFloat
  | char value => value.toFloat
  | i16 value => value.toFloat
  | i32 value => value.toFloat
  | f32 bits => (Float32.ofBits bits).toFloat
  | i64 value => value.toFloat
  | f64 bits => Float.ofBits bits

/-- The value alone, laid out as `layout` says when it is a floating-point number. -/
def valueText (layout : Decimal.Layout) : Scalar → String
  | i8 value => toString value.toInt
  | char value => toString value.toNat
  | i16 value => toString value.toInt
  | i32 value => toString value.toInt
  | f32 bits => layout.render Decimal.binary32 bits.toNat
  | i64 value => toString value.toInt
  | f64 bits => layout.render Decimal.binary64 bits.toNat

/-- The value and its element type. -/
def text (s : Scalar) : String :=
  s.valueText Decimal.plain ++ ":" ++ s.element.name

/-- The form in which messages name a scalar. -/
def describe (s : Scalar) : String :=
  let tag := match s with
    | i8 _ => "I8"
    | char _ => "Char"
    | i16 _ => "I16"
    | i32 _ => "I32"
    | f32 _ => "F32"
    | i64 _ => "I64"
    | f64 _ => "F64"
  s!"{tag}({s.valueText Decimal.detailed})"

theorem length_bytes (s : Scalar) : s.bytes.length = s.element.size := by
  simp [bytes]

theorem element_ofWord (e : Element) (word : Nat) : (ofWord e word).element = e := by
  cases e <;> rfl

private theorem word_lt (s : Scalar) : s.word < Bytes.capacity s.element.size := by
  cases s with
  | i8 v => exact v.toUInt8.toNat_lt
  | char v => exact v.toNat_lt
  | i16 v => exact v.toUInt16.toNat_lt
  | i32 v => exact v.toUInt32.toNat_lt
  | f32 v => exact v.toNat_lt
  | i64 v => exact v.toUInt64.toNat_lt
  | f64 v => exact v.toNat_lt

theorem ofWord_word (s : Scalar) : ofWord s.element s.word = s := by
  cases s <;> simp [ofWord, word, element]

private theorem word_ofWord (e : Element) (word : Nat) :
    (ofWord e word).word = word % Bytes.capacity e.size := by
  cases e <;> simp [ofWord, Scalar.word, Bytes.capacity, Element.size]

theorem toNatLE_bytes (s : Scalar) : Bytes.toNatLE s.bytes = s.word := by
  rw [bytes, Bytes.toNatLE_ofNatLE, Nat.mod_eq_of_lt s.word_lt]

/-- The bytes of the scalar that a string spells are that string. -/
theorem bytes_of_ofBytes? {e : Element} {bytes : Bytes} {s : Scalar} (h : ofBytes? e bytes = some s) :
    s.bytes = bytes := by
  unfold ofBytes? at h
  split at h
  next size =>
    cases h
    rw [Scalar.bytes, element_ofWord, word_ofWord, ← size, Nat.mod_eq_of_lt (Bytes.toNatLE_lt bytes),
      Bytes.ofNatLE_toNatLE]
  next => cases h

end Scalar
end Offload
