import Offload.Decimal.Binary
import Offload.Json.Basic
import Offload.Text.Hex

/-!
Values as members of JSON objects: reading them by name and by type, and writing them. A member that
is null counts as missing. Floating-point words are written by their bits, so that none is rounded.
-/
namespace Offload

/-- Why a JSON value does not describe what was asked for. -/
inductive RequestError where
  /-- A member is missing, of a wrong type or out of range. -/
  | malformed
  /-- What is described does not exist. -/
  | undefined
  deriving Repr, DecidableEq

abbrev Decoded (α : Type) := Except RequestError α

namespace Json

variable {α : Type}

def malformed : Decoded α :=
  .error .malformed

def orMalformed : Option α → Decoded α
  | some a => .ok a
  | none => malformed

/-- A member that is not null. -/
def given? (j : Json) (name : String) : Option Json :=
  match j.member? name with
  | some .null => none
  | other => other

def required (j : Json) (name : String) (decode : Json → Decoded α) : Decoded α := do
  decode (← orMalformed (j.given? name))

def optional (j : Json) (name : String) (decode : Json → Decoded α) : Decoded (Option α) :=
  match j.given? name with
  | none => .ok none
  | some value => some <$> decode value

/-- A member, or `fallback` when it is missing. -/
def orElse (j : Json) (name : String) (fallback : α) (decode : Json → Decoded α) : Decoded α := do
  pure ((← j.optional name decode).getD fallback)

/-- A member, or the plainest value of its type when it is missing: nought, false, the empty text, the
empty list. -/
def orDefault [Inhabited α] (j : Json) (name : String) (decode : Json → Decoded α) : Decoded α :=
  j.orElse name default decode

/-- A member that is an object; one without members stands for it when it is missing. -/
def orEmpty (j : Json) (name : String) (decode : Json → Decoded α) : Decoded α :=
  decode ((j.given? name).getD (.obj []))

def natural (j : Json) : Decoded Nat :=
  orMalformed j.nat?

def natBelow (bound : Nat) (j : Json) : Decoded Nat := do
  let n ← j.natural
  if n < bound then pure n else malformed

/-- A number of 32 bits, without a sign. -/
def index (j : Json) : Decoded Nat :=
  natBelow 0x100000000 j

def word32 (j : Json) : Decoded UInt32 :=
  UInt32.ofNat <$> j.index

def word64 (j : Json) : Decoded UInt64 :=
  UInt64.ofNat <$> j.natural

/-- A number of 64 bits with a sign, as the word without a sign that has the same bits. -/
def wordOfInteger (j : Json) : Decoded Nat := do
  let n ← orMalformed j.int?
  if n < 0x8000000000000000 then pure (n % 0x10000000000000000).toNat else malformed

def boolean (j : Json) : Decoded Bool :=
  orMalformed j.bool?

def string (j : Json) : Decoded String :=
  orMalformed j.string?

/-- A string that is the name of something. -/
def named (find : String → Option α) (j : Json) : Decoded α := do
  orMalformed (find (← j.string))

def list (decode : Json → Decoded α) (j : Json) : Decoded (List α) := do
  (← orMalformed j.array?).mapM decode

def hexBytes (j : Json) : Decoded Bytes :=
  j.named Text.parseHexBytes?

/-- The bits of a floating-point word. -/
def bits (digits : Nat) (j : Json) : Decoded Nat :=
  j.named (Text.parseHexWord? digits)

def ofOption (encode : α → Json) : Option α → Json
  | some a => encode a
  | none => .null

def ofList (encode : α → Json) (items : List α) : Json :=
  .arr (items.map encode)

def ofNats (numbers : List Nat) : Json :=
  ofList ofNat numbers

def ofStrings (texts : List String) : Json :=
  ofList .str texts

def ofBytes (bytes : Bytes) : Json :=
  .str (Text.hexBytes bytes)

/-- The bits of a floating-point word; a word that is no number has no bits to show. -/
def ofReal (format : Decimal.BinaryFormat) (bits : Nat) : Json :=
  match format.decode bits with
  | .nan => .str "nan"
  | _ => .str (Text.hexWord ((1 + format.exponentBits + format.fractionBits) / 4) bits)

def ofExcept {ε : Type} (onError : ε → Json) (encode : α → Json) : Except ε α → Json
  | .ok a => encode a
  | .error e => onError e

/-- What a successful operation without a result answers. -/
def ofUnit (_ : Unit) : Json :=
  .str "ok"

end Json
end Offload
