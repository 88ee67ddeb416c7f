import Offload.Pattern.Usable
import Offload.Text.Number

/-!
Filter directives: a level; or a target, a span in brackets or both, with a level behind an equals sign.
A span may hold a field in braces, with a value behind an equals sign. Blanks around a directive are
passed over when its parts are looked for, yet the places of the parts are counted in the whole text.
-/
namespace Offload.LogDirective

/-- Why a directive is no filter. -/
inductive Fault where
  | invalid
  /-- A part of it starts or ends inside a character. -/
  | cutCharacter
  deriving Repr, DecidableEq

/-- A name of a level or its number. -/
def isLevel (text : List Char) : Bool :=
  Text.lowered text ∈ ["off", "error", "warn", "info", "debug", "trace"] ||
    (Text.signedNatural? 5 text).isSome

/-- A character that a level or a target may start with. -/
def startsName (c : Char) : Bool :=
  c ∈ ['-', ':', '_'] || Text.isLetterOrNumber c

/-- A value is a number or a pattern. Without a sign, each number is a pattern too. -/
def isValue (text : List Char) : Bool :=
  (match text with
    | '+' :: number => Text.isReal number
    | _ => false) || ((Pattern.parse? text).any Pattern.isUsable)

/-- A field is a name, or a name and a value; what a second equals sign starts does not count. -/
def isField (text : List Char) : Bool :=
  text ≠ [] &&
    match text.dropWhile (· ≠ '=') with
    | _ :: value => isValue (value.takeWhile (· ≠ '='))
    | [] => true

/-- How far into a directive one has read; the parts that have no end yet with the places of their first
bytes. -/
inductive Stage where
  | start
  | name (first : Nat)
  | span (first : Nat)
  | field (first : Nat)
  | fieldDone
  | spanDone
  | level (first : Nat)

/-- The text behind the first `count` bytes. -/
def dropBytes? : (count : Nat) → List Char → Option (List Char)
  | 0, text => some text
  | _ + 1, [] => none
  | count + 1, c :: rest =>
    if c.utf8Size ≤ count + 1 then dropBytes? (count + 1 - c.utf8Size) rest else none

/-- The first `count` bytes of a text. -/
def takeBytes? : (count : Nat) → List Char → Option (List Char)
  | 0, _ => some []
  | _ + 1, [] => none
  | count + 1, c :: rest =>
    if c.utf8Size ≤ count + 1 then (takeBytes? (count + 1 - c.utf8Size) rest).map (c :: ·) else none

/-- The text from one place up to another, both counted in bytes. -/
def slice? (text : List Char) (start stop : Nat) : Option (List Char) := do
  takeBytes? (stop - start) (← dropBytes? start text)

/-- The part between two places. A cut inside a character yields nothing. -/
def part (directive : List Char) (first stop : Nat) : Except Fault (List Char) :=
  match slice? directive first stop with
  | some text => .ok text
  | none => .error .cutCharacter

def Stage.next (directive : List Char) (stage : Stage) (place : Nat) (c : Char) : Except Fault Stage :=
  match stage, c with
  | start, '[' => .ok (span (place + 1))
  | start, c => if startsName c then .ok (name place) else .error .invalid
  | name first, '=' => do
    let _ ← part directive first place
    pure (level (place + 1))
  | name first, '[' => do
    let _ ← part directive first place
    pure (span (place + 1))
  | name first, _ => .ok (name first)
  | span first, ']' => do
    let _ ← part directive first place
    pure spanDone
  | span first, '\x7b' => do
    let _ ← part directive first place
    pure (field (place + 1))
  | span first, _ => .ok (span first)
  | field first, '\x7d' => do
    if isField (← part directive first place) then pure fieldDone else .error .invalid
  | field first, _ => .ok (field first)
  | fieldDone, ']' => .ok spanDone
  | fieldDone, _ => .error .invalid
  | spanDone, '=' => .ok (level (place + 1))
  | spanDone, _ => .error .invalid
  | level first, _ => .ok (level first)

def readFrom (directive : List Char) (stage : Stage) (place : Nat) : List Char → Except Fault Stage
  | [] => .ok stage
  | c :: rest => do
    let stage ← stage.next directive place c
    readFrom directive stage (place + c.utf8Size) rest

/-- Check one directive. -/
def check (directive : List Char) : Except Fault Unit := do
  match ← readFrom directive .start 0 (Text.trim directive) with
  | .name _ => .ok ()
  | .spanDone => .ok ()
  | .level first =>
    match dropBytes? first directive with
    | none => .error .cutCharacter
    | some [] => .ok ()
    | some text => if isLevel text then .ok () else .error .invalid
  | _ => .error .invalid

/-- Check a list with commas from its start; empty directives are passed over. -/
def checkAll (directives : String) : Except Fault Unit :=
  (directives.splitOn ",").forM fun directive =>
    if directive = "" then .ok () else check directive.toList

end Offload.LogDirective
