import Offload.Pattern.Reader

/-!
Which patterns can be used. There are no tables of the properties of Unicode: case can be ignored, and
digits, blanks and words can be told, among bytes only. And what bytes match is ASCII, so that a match
never cuts a character.
-/
namespace Offload

/-- How a pattern is read at some place. -/
structure PatternMode where
  ignoresCase : Bool := false
  unicode : Bool := true
  deriving Repr, DecidableEq

namespace PatternMode

def change (m : PatternMode) (flags : PatternFlags) : PatternMode :=
  { ignoresCase := flags.ignoresCase.getD m.ignoresCase, unicode := flags.unicode.getD m.unicode }

/-- Whether tables would be needed to ignore case. -/
def needsCases (m : PatternMode) : Bool :=
  m.unicode && m.ignoresCase

end PatternMode

namespace PatternChar

def isAscii (c : PatternChar) : Bool :=
  c.char.toNat < 0x80

/-- Whether the character can be used between brackets. -/
def isUsableInSet (m : PatternMode) (c : PatternChar) : Bool :=
  !m.needsCases && (m.unicode || c.isAscii)

/-- Whether the character can be used outside brackets. -/
def isUsable (m : PatternMode) (c : PatternChar) : Bool :=
  !m.needsCases && (m.unicode || !c.isByte || c.isAscii)

end PatternChar

namespace PatternSet

mutual

def isUsable (m : PatternMode) : PatternSet → Bool
  | empty => true
  | char c => c.isUsableInSet m
  | range first last => first.isUsableInSet m && last.isUsableInSet m
  | named negated => !m.needsCases && (m.unicode || !negated)
  | kind negated => !m.unicode && !negated
  | nested negated set => (!negated || m.unicode && !m.ignoresCase) && isUsable m set
  | union sets => areUsable m sets
  | combined first second => isUsable m first && isUsable m second

def areUsable (m : PatternMode) : List PatternSet → Bool
  | [] => true
  | set :: rest => isUsable m set && areUsable m rest

end
end PatternSet

namespace Pattern

mutual

/-- The mode behind a pattern that is read in a mode, if it can be used there. A group leaves the mode as
it is, and branches hand it on to one another. -/
def modeAfter? (m : PatternMode) : Pattern → Option PatternMode
  | empty | textEdge => some m
  | char c => if c.isUsable m then some m else none
  | anyChar => if m.unicode then some m else none
  | wordEdge => if m.unicode then none else some m
  | kind negated => if !m.unicode && !negated then some m else none
  | brackets negated items => if (!negated || m.unicode) && items.isUsable m then some m else none
  | flags change => some (m.change change)
  | repeated body => modeAfter? m body
  | group _ change body => (modeAfter? (m.change change) body).map fun _ => m
  | sequence parts => modeAfterAll? m parts
  | choice branches => modeAfterAll? m branches

def modeAfterAll? (m : PatternMode) : List Pattern → Option PatternMode
  | [] => some m
  | part :: rest => do modeAfterAll? (← modeAfter? m part) rest

end

def isUsable (p : Pattern) : Bool :=
  (modeAfter? {} p).isSome

end Pattern
end Offload
