import Offload.Json.Basic
import Offload.Text.Hex
import Offload.Text.Number

/-!
Reading JSON text. Nothing but the grammar is accepted: no trailing text, no leading zeros, no raw
control characters in strings. A string that escapes half of a surrogate pair is read, as one that
spells no text.
-/
namespace Offload.Json

/-- A reader consumes a part of the text in front and returns the rest. -/
abbrev Reader (α : Type) := List Char → Option (α × List Char)

def skipSpace (text : List Char) : List Char :=
  text.dropWhile fun c => c = ' ' || c = '\n' || c = '\t' || c = '\r'

/-- The text after `word`, when it starts with that. -/
def afterWord : (word : List Char) → List Char → Option (List Char)
  | [], text => some text
  | c :: word, d :: text => if c = d then afterWord word text else none
  | _ :: _, [] => none

def fourHex : Reader Nat
  | a :: b :: c :: d :: rest => do
    let a ← Text.hexValue? a
    let b ← Text.hexValue? b
    let c ← Text.hexValue? c
    let d ← Text.hexValue? d
    pure (((a * 16 + b) * 16 + c) * 16 + d, rest)
  | _ => none

def isHighSurrogate (unit : Nat) : Bool :=
  0xd800 ≤ unit && unit < 0xdc00

def isLowSurrogate (unit : Nat) : Bool :=
  0xdc00 ≤ unit && unit < 0xe000

/-- The character of a `\u` escape whose first four digits come next. A high surrogate takes the escape
of a low one behind it; without its partner neither is a character. -/
def unicodeEscape : Reader (Option Char) := fun text => do
  let (unit, rest) ← fourHex text
  if isHighSurrogate unit then
    match rest with
    | '\\' :: 'u' :: after =>
      let (low, after) ← fourHex after
      if isLowSurrogate low then
        pure (some (Char.ofNat (0x10000 + (unit - 0xd800) * 0x400 + (low - 0xdc00))), after)
      else pure (none, rest)
    | _ => pure (none, rest)
  else if isLowSurrogate unit then pure (none, rest)
  else pure (some (Char.ofNat unit), rest)

def escapedChar : Reader (Option Char)
  | '"' :: rest => some ('"', rest)
  | '\\' :: rest => some ('\\', rest)
  | '/' :: rest => some ('/', rest)
  | 'b' :: rest => some ('\x08', rest)
  | 'f' :: rest => some ('\x0c', rest)
  | 'n' :: rest => some ('\n', rest)
  | 'r' :: rest => some ('\r', rest)
  | 't' :: rest => some ('\t', rest)
  | 'u' :: rest => unicodeEscape rest
  | _ => none

/-- The characters up to the closing quote, in reverse order behind `seen`; nothing once one of them
is no character. The fuel bounds their number. -/
def stringBody : Nat → Option (List Char) → Reader (Option (List Char))
  | 0, _, _ => none
  | fuel + 1, seen, text =>
    match text with
    | [] => none
    | '"' :: rest => some (seen, rest)
    | '\\' :: rest => do
      let (c, rest) ← escapedChar rest
      stringBody fuel (c.bind fun c => seen.map (c :: ·)) rest
    | c :: rest => if c.toNat < 0x20 then none else stringBody fuel (seen.map (c :: ·)) rest

/-- A string whose opening quote has been read, if it spells a text. -/
def stringLiteral : Reader (Option String) := fun text => do
  let (reversed, rest) ← stringBody (text.length + 1) (some []) text
  pure (reversed.map fun chars => String.ofList chars.reverse, rest)

def ofText : Option String → Json
  | some text => .str text
  | none => .unreadable

/-- An object, if all names spell texts. -/
def ofMembers (members : List (Option String × Json)) : Json :=
  match members.mapM fun (name, item) => name.map (·, item) with
  | some members => .obj members
  | none => .unreadable

/-- The part of a number behind its integer digits: a fraction, an exponent, both or neither. -/
def fractionAndExponent : Reader (List Char) := fun text => do
  let (fraction, rest) ← match text with
    | '.' :: rest =>
      let digits := rest.takeWhile Char.isDigit
      if digits = [] then none else pure ('.' :: digits, rest.dropWhile Char.isDigit)
    | _ => pure ([], text)
  match rest with
  | e :: after =>
    if e = 'e' || e = 'E' then
      let (sign, after) := match after with
        | '+' :: r => (['+'], r)
        | '-' :: r => (['-'], r)
        | r => ([], r)
      let digits := after.takeWhile Char.isDigit
      if digits = [] then none
      else pure (fraction ++ e :: sign ++ digits, after.dropWhile Char.isDigit)
    else pure (fraction, rest)
  | [] => pure (fraction, rest)

/-- An integer literal that fits 64 bits is an `int`; minus zero is not one of them. -/
def numberOf (negative : Bool) (digits tail : List Char) : Json :=
  let value := Text.digitsValue digits
  let literal := String.ofList ((if negative then ['-'] else []) ++ digits ++ tail)
  if tail ≠ [] then .real literal
  else if negative then
    if value = 0 || 0x8000000000000000 < value then .real literal else .int (-value)
  else if Text.maxUInt64 < value then .real literal
  else .int value

def number : Reader Json := fun text => do
  let (negative, text) := match text with
    | '-' :: rest => (true, rest)
    | _ => (false, text)
  let digits := text.takeWhile Char.isDigit
  if digits = [] || (digits.length > 1 && digits.head? = some '0') then none
  else
    let (tail, rest) ← fractionAndExponent (text.dropWhile Char.isDigit)
    pure (numberOf negative digits tail, rest)

mutual

/-- One value, blanks in front allowed. The fuel bounds the calls that nest in one another. -/
def value : Nat → Reader Json
  | 0, _ => none
  | fuel + 1, text =>
    match skipSpace text with
    | '"' :: rest => do
      let (s, rest) ← stringLiteral rest
      pure (ofText s, rest)
    | '[' :: rest =>
      match skipSpace rest with
      | ']' :: rest => some (.arr [], rest)
      | rest => do
        let (items, rest) ← items fuel rest
        pure (.arr items, rest)
    | '\x7b' :: rest =>
      match skipSpace rest with
      | '\x7d' :: rest => some (.obj [], rest)
      | rest => do
        let (members, rest) ← members fuel rest
        pure (ofMembers members, rest)
    | 'n' :: rest => (afterWord ['u', 'l', 'l'] rest).map (Json.null, ·)
    | 't' :: rest => (afterWord ['r', 'u', 'e'] rest).map (Json.bool true, ·)
    | 'f' :: rest => (afterWord ['a', 'l', 's', 'e'] rest).map (Json.bool false, ·)
    | rest => number rest

/-- One or more values with commas between them, up to the closing bracket. -/
def items : Nat → Reader (List Json)
  | 0, _ => none
  | fuel + 1, text => do
    let (first, rest) ← value fuel text
    match skipSpace rest with
    | ',' :: rest =>
      let (others, rest) ← items fuel rest
      pure (first :: others, rest)
    | ']' :: rest => pure ([first], rest)
    | _ => none

/-- One or more members with commas between them, up to the closing brace. -/
def members : Nat → Reader (List (Option String × Json))
  | 0, _ => none
  | fuel + 1, text =>
    match skipSpace text with
    | '"' :: rest => do
      let (name, rest) ← stringLiteral rest
      match skipSpace rest with
      | ':' :: rest =>
        let (first, rest) ← value fuel rest
        match skipSpace rest with
        | ',' :: rest =>
          let (others, rest) ← members fuel rest
          pure ((name, first) :: others, rest)
        | '\x7d' :: rest => pure ([(name, first)], rest)
        | _ => none
      | _ => none
    | _ => none

end

/-- The value that a text spells, if it is one value with at most blanks around it. -/
def parse? (text : String) : Option Json := do
  let chars := text.toList
  let (result, rest) ← value (2 * chars.length + 2) chars
  if skipSpace rest = [] then pure result else none

end Offload.Json
