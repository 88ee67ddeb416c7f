import Offload.Pattern.Basic
import Offload.Text.Blank
import Offload.Text.Hex
import Offload.Text.Letter

/-!
Reading patterns. An opening brace never finds its closing one, because a pattern ends in front of the
first of those: repetitions with counts, properties and code points in braces are refused.
-/
namespace Offload.Pattern

/-- The text without what may be passed over in front: blanks and comments up to the end of a line. -/
def skipSpaced (inComment : Bool) : List Char → List Char
  | [] => []
  | c :: rest =>
    if inComment then skipSpaced (c ≠ '\n') rest
    else if c = '#' then skipSpaced true rest
    else if Text.isBlank c then skipSpaced false rest
    else c :: rest

def skip (spaced : Bool) (text : List Char) : List Char :=
  if spaced then skipSpaced false text else text

/-- The character that decides what a hyphen in front of `text` means. Of a comment only the mark and
the blanks behind it are passed over. -/
def afterHyphen? (spaced : Bool) (text : List Char) : Option Char :=
  if spaced then
    match text.dropWhile Text.isBlank with
    | '#' :: rest => (rest.dropWhile Text.isBlank).head?
    | rest => rest.head?
  else text.head?

/-- What an escape stands for. -/
inductive Escape where
  | char (c : PatternChar)
  | kind (negated : Bool)
  | textEdge
  | wordEdge

/-- The value of `count` hexadecimal digits behind `value`, with blanks passed over behind each. -/
def hexDigits? (spaced : Bool) : (count value : Nat) → List Char → Option (Nat × List Char)
  | 0, value, text => some (value, text)
  | count + 1, value, c :: rest => do
    let digit ← Text.hexValue? c
    hexDigits? spaced count (16 * value + digit) (skip spaced rest)
  | _ + 1, _, [] => none

/-- A character by its code point, which no half of a surrogate pair is. -/
def codePoint? (spaced : Bool) (count : Nat) (text : List Char) : Option (Escape × List Char) := do
  let (value, rest) ← hexDigits? spaced count 0 (skip spaced text)
  if value.isValidChar then pure (.char ⟨Char.ofNat value, count = 2⟩, rest) else none

/-- A backslash makes an ASCII character stand for itself, unless it is a letter, a digit or an angle
bracket. -/
def isEscapable (c : Char) : Bool :=
  c.toNat < 0x80 && !c.isAlphanum && c ≠ '<' && c ≠ '>'

/-- The escape whose backslash has been read. References to groups are refused, and so are the
properties of characters, for which there are no tables. -/
def escape? (spaced : Bool) : List Char → Option (Escape × List Char)
  | [] => none
  | c :: rest =>
    match c with
    | 'x' => codePoint? spaced 2 rest
    | 'u' => codePoint? spaced 4 rest
    | 'U' => codePoint? spaced 8 rest
    | 'd' | 's' | 'w' => some (.kind false, rest)
    | 'D' | 'S' | 'W' => some (.kind true, rest)
    | 'a' | 'f' | 't' | 'n' | 'r' | 'v' => some (.char ⟨controlOf c, false⟩, rest)
    | 'A' | 'z' => some (.textEdge, rest)
    | 'b' | 'B' | '<' | '>' => some (.wordEdge, rest)
    | _ => if isEscapable c then some (.char ⟨c, false⟩, rest) else none
where
  /-- The control character that a letter stands for. -/
  controlOf : Char → Char
    | 'a' => '\x07'
    | 'f' => '\x0c'
    | 't' => '\t'
    | 'n' => '\n'
    | 'r' => '\r'
    | _ => '\x0b'

/-- The names of the classes of ASCII characters. -/
def asciiClasses : List String :=
  ["alnum", "alpha", "ascii", "blank", "cntrl", "digit", "graph", "lower", "print", "punct", "space",
    "upper", "word", "xdigit"]

/-- A class by its name between colons, whose opening bracket has been read. -/
def asciiClass? : List Char → Option (PatternSet × List Char)
  | ':' :: text =>
    let (negated, text) := match text with
      | '^' :: rest => (true, rest)
      | _ => (false, text)
    match text.dropWhile (· ≠ ':') with
    | ':' :: ']' :: rest =>
      if String.ofList (text.takeWhile (· ≠ ':')) ∈ asciiClasses then some (.named negated, rest) else none
    | _ => none
  | _ => none

/-- A character or an escape between brackets; edges are none of its kinds. -/
def setPart? (spaced : Bool) : List Char → Option (PatternSet × List Char)
  | '\\' :: rest => do
    match ← escape? spaced rest with
    | (.char c, rest) => pure (.char c, rest)
    | (.kind negated, rest) => pure (.kind negated, rest)
    | (.textEdge, _) => none
    | (.wordEdge, _) => none
  | c :: rest => some (.char ⟨c, false⟩, rest)
  | [] => none

/-- A part of a set, or a range when a hyphen and another part follow. -/
def setRange? (spaced : Bool) (text : List Char) : Option (PatternSet × List Char) := do
  let (first, text) ← setPart? spaced text
  match skip spaced text with
  | '-' :: rest =>
    match afterHyphen? spaced rest with
    | some ']' => pure (first, '-' :: rest)
    | some '-' => pure (first, '-' :: rest)
    | _ =>
      let (last, rest) ← setPart? spaced (skip spaced rest)
      match first, last with
      | .char a, .char b => if a.char ≤ b.char then pure (.range a b, rest) else none
      | _, _ => none
  | [] => none
  | rest => pure (first, rest)

/-- The hyphens at the start of a set, which stand for themselves. The fuel bounds their number. -/
def hyphens (spaced : Bool) : Nat → List Char → List PatternSet × List Char
  | fuel + 1, '-' :: rest =>
    let (more, rest) := hyphens spaced fuel (skip spaced rest)
    (.char ⟨'-', false⟩ :: more, rest)
  | _, text => ([], text)

/-- The start of a set: hyphens, or a closing bracket that stands for itself. -/
def setStart (spaced : Bool) (text : List Char) : List PatternSet × List Char :=
  match hyphens spaced text.length text with
  | ([], ']' :: rest) => ([.char ⟨']', false⟩], rest)
  | start => start

/-- A set from the parts that were read last, in reverse order, and what stands before their operator. -/
def closeSet (before : Option PatternSet) (read : List PatternSet) : PatternSet :=
  let set := PatternSet.ofList read.reverse
  before.elim set (PatternSet.combined · set)

mutual

/-- A set whose opening bracket has been read, and whether it is negated. The fuel bounds the calls that
nest in one another. -/
def bracket? : Nat → Bool → List Char → Option ((Bool × PatternSet) × List Char)
  | 0, _, _ => none
  | fuel + 1, spaced, text => do
    let (negated, text) := match skip spaced text with
      | '^' :: rest => (true, skip spaced rest)
      | text => (false, text)
    let (start, text) := setStart spaced text
    let (set, rest) ← setRest? fuel spaced none start.reverse text
    pure ((negated, set), rest)

/-- The rest of a set up to its closing bracket. -/
def setRest? : Nat → Bool → Option PatternSet → List PatternSet → List Char →
    Option (PatternSet × List Char)
  | 0, _, _, _, _ => none
  | fuel + 1, spaced, before, read, text =>
    match skip spaced text with
    | [] => none
    | ']' :: rest => some (closeSet before read, rest)
    | '[' :: rest =>
      match asciiClass? rest with
      | some (set, rest) => setRest? fuel spaced before (set :: read) rest
      | none => do
        let ((negated, set), rest) ← bracket? fuel spaced rest
        setRest? fuel spaced before (.nested negated set :: read) rest
    | '&' :: '&' :: rest => setRest? fuel spaced (some (closeSet before read)) [] rest
    | '-' :: '-' :: rest => setRest? fuel spaced (some (closeSet before read)) [] rest
    | '~' :: '~' :: rest => setRest? fuel spaced (some (closeSet before read)) [] rest
    | text => do
      let (set, rest) ← setRange? spaced text
      setRest? fuel spaced before (set :: read) rest

end

/-- What an opening parenthesis starts. -/
inductive Opening where
  | flags (change : PatternFlags)
  | group (name : Option (List Char)) (change : PatternFlags)

/-- The flags that may be set; most of them do not decide whether a pattern can be used. -/
def flagNames : List Char := ['i', 'm', 's', 'U', 'u', 'R', 'x']

def setFlag (change : PatternFlags) (name : Char) (on : Bool) : PatternFlags :=
  match name with
  | 'i' => { change with ignoresCase := some on }
  | 'u' => { change with unicode := some on }
  | 'x' => { change with spaced := some on }
  | _ => change

/-- Flags, each at most once, up to a colon or the closing parenthesis; `seen` holds them in reverse
order. Those behind a hyphen are taken away, and there is one at least. -/
def opening? (change : PatternFlags) (seen : List Char) : List Char → Option (Opening × List Char)
  | [] => none
  | c :: rest =>
    if c = ':' ∨ c = ')' then
      if seen.head? = some '-' then none
      else if c = ':' then some (.group none change, rest)
      else if seen = [] then none
      else some (.flags change, rest)
    else if c ∈ seen then none
    else if c = '-' then opening? change (c :: seen) rest
    else if c ∈ flagNames then opening? (setFlag change c (!seen.contains '-')) (c :: seen) rest
    else none

def isNameStart (c : Char) : Bool :=
  c = '_' || Text.isLetter c

def isNamePart (c : Char) : Bool :=
  c ∈ ['_', '.', '[', ']'] || Text.isLetterOrNumber c

/-- A named group whose opening angle bracket has been read. -/
def namedOpening? (text : List Char) : Option (Opening × List Char) :=
  let name := text.takeWhile (· ≠ '>')
  match name, text.dropWhile (· ≠ '>') with
  | first :: others, '>' :: rest =>
    if isNameStart first && others.all isNamePart then some (.group (some name) {}, rest) else none
  | _, _ => none

/-- What a parenthesis that has been read starts. -/
def parenthesis? : List Char → Option (Opening × List Char)
  | '?' :: 'P' :: '<' :: rest => namedOpening? rest
  | '?' :: '<' :: rest => namedOpening? rest
  | '?' :: rest => opening? {} [] rest
  | rest => some (.group none {}, rest)

mutual

/-- Branches up to the end of the text or the parenthesis that closes the group; `read` holds them in
reverse order. -/
def branches? : Nat → Bool → List Pattern → List Char → Option (Pattern × List Char)
  | 0, _, _, _ => none
  | fuel + 1, spaced, read, text => do
    let (branch, spaced, rest) ← parts? fuel spaced [] text
    match rest with
    | '|' :: rest => branches? fuel spaced (branch :: read) rest
    | rest => pure (ofBranches (branch :: read).reverse, rest)

/-- The parts of a branch, and whether blanks may stand behind it; `read` holds the parts in reverse
order. -/
def parts? : Nat → Bool → List Pattern → List Char → Option (Pattern × Bool × List Char)
  | 0, _, _, _ => none
  | fuel + 1, spaced, read, text =>
    match skip spaced text with
    | [] => some (ofParts read.reverse, spaced, [])
    | c :: rest =>
      match c with
      | '|' => some (ofParts read.reverse, spaced, c :: rest)
      | ')' => some (ofParts read.reverse, spaced, c :: rest)
      | '(' => do
        match ← parenthesis? (skip spaced rest) with
        | (.flags change, rest) => parts? fuel (change.spaced.getD spaced) (.flags change :: read) rest
        | (.group name change, rest) =>
          match ← branches? fuel (change.spaced.getD spaced) [] rest with
          | (body, ')' :: rest) => parts? fuel spaced (.group name change body :: read) rest
          | _ => none
      | '[' => do
        let ((negated, items), rest) ← bracket? fuel spaced rest
        parts? fuel spaced (.brackets negated items :: read) rest
      | '?' | '*' | '+' =>
        match read with
        | [] => none
        | operand :: others =>
          let rest := match rest with
            | '?' :: rest => rest
            | rest => rest
          if operand.isRepeatable then parts? fuel spaced (.repeated operand :: others) rest else none
      | '\x7b' => none
      | '.' => parts? fuel spaced (.anyChar :: read) rest
      | '^' => parts? fuel spaced (.textEdge :: read) rest
      | '$' => parts? fuel spaced (.textEdge :: read) rest
      | '\\' => do
        match ← escape? spaced rest with
        | (.char c, rest) => parts? fuel spaced (.char c :: read) rest
        | (.kind negated, rest) => parts? fuel spaced (.kind negated :: read) rest
        | (.textEdge, rest) => parts? fuel spaced (.textEdge :: read) rest
        | (.wordEdge, rest) => parts? fuel spaced (.wordEdge :: read) rest
      | c => parts? fuel spaced (.char ⟨c, false⟩ :: read) rest

end

/-- How deep a pattern may nest. -/
def maxDepth : Nat := 250

/-- The pattern that a text spells. Groups have different names. -/
def parse? (text : List Char) : Option Pattern := do
  match ← branches? (2 * text.length + 2) false [] text with
  | (pattern, []) => if pattern.names.Nodup ∧ pattern.depth ≤ maxDepth then pure pattern else none
  | _ => none

end Offload.Pattern
