/-!
Patterns that the value of a field is matched with: regular expressions as trees. A leaf keeps only what
decides whether the pattern can be used.
-/
namespace Offload

/-- A character that stands for itself. -/
structure PatternChar where
  char : Char
  /-- Written by the two digits of a byte. -/
  isByte : Bool := false
  deriving Repr, DecidableEq

/-- How a pattern is read; nothing where a setting stays as it is. -/
structure PatternFlags where
  /-- Capitals and small letters are the same. -/
  ignoresCase : Option Bool := none
  /-- Characters are those of Unicode and not bytes. -/
  unicode : Option Bool := none
  /-- Blanks and comments may stand between the parts. -/
  spaced : Option Bool := none
  deriving Repr, DecidableEq

/-- What stands between brackets. -/
inductive PatternSet where
  | empty
  | char (c : PatternChar)
  | range (first last : PatternChar)
  /-- A class of ASCII characters by its name. -/
  | named (negated : Bool)
  /-- Digits, blanks or the characters of words. -/
  | kind (negated : Bool)
  | nested (negated : Bool) (set : PatternSet)
  | union (sets : List PatternSet)
  /-- Two sets with an operator between them. -/
  | combined (first second : PatternSet)
  deriving Repr, Inhabited

inductive Pattern where
  | empty
  | char (c : PatternChar)
  /-- Any character but the end of a line. -/
  | anyChar
  /-- The place where a line or the text starts or ends. -/
  | textEdge
  /-- A place at the edge of a word, or one that is none. -/
  | wordEdge
  /-- Digits, blanks or the characters of words. -/
  | kind (negated : Bool)
  | brackets (negated : Bool) (items : PatternSet)
  /-- A change of flags up to the end of the group. -/
  | flags (change : PatternFlags)
  | repeated (body : Pattern)
  | group (name : Option (List Char)) (change : PatternFlags) (body : Pattern)
  | sequence (parts : List Pattern)
  | choice (branches : List Pattern)
  deriving Repr, Inhabited

namespace PatternSet

/-- Sets side by side; a single one is not wrapped. -/
def ofList : List PatternSet → PatternSet
  | [] => empty
  | [only] => only
  | sets => union sets

mutual

/-- How deep sets nest. -/
def depth : PatternSet → Nat
  | empty | char _ | range _ _ | named _ | kind _ => 0
  | nested _ set => depth set + 1
  | union sets => depthOf sets + 1
  | combined first second => max (depth first) (depth second) + 1

def depthOf : List PatternSet → Nat
  | [] => 0
  | set :: rest => max (depth set) (depthOf rest)

end
end PatternSet

namespace Pattern

/-- Parts one after the other; a single one is not wrapped. -/
def ofParts : List Pattern → Pattern
  | [] => empty
  | [only] => only
  | parts => sequence parts

def ofBranches : List Pattern → Pattern
  | [only] => only
  | branches => choice branches

/-- Whether a repetition may follow. -/
def isRepeatable : Pattern → Bool
  | empty | flags _ => false
  | _ => true

mutual

/-- How deep a pattern nests. -/
def depth : Pattern → Nat
  | empty | char _ | anyChar | textEdge | wordEdge | kind _ | flags _ => 0
  | brackets _ items => items.depth + 1
  | repeated body => depth body + 1
  | group _ _ body => depth body + 1
  | sequence parts => depthOf parts + 1
  | choice branches => depthOf branches + 1

def depthOf : List Pattern → Nat
  | [] => 0
  | part :: rest => max (depth part) (depthOf rest)

end

mutual

/-- The names of the groups, in the order in which they open. -/
def names : Pattern → List (List Char)
  | group name _ body => name.toList ++ names body
  | repeated body => names body
  | sequence parts => namesOf parts
  | choice branches => namesOf branches
  | empty | char _ | anyChar | textEdge | wordEdge | kind _ | flags _ | brackets _ _ => []

def namesOf : List Pattern → List (List Char)
  | [] => []
  | part :: rest => names part ++ namesOf rest

end
end Pattern
end Offload
