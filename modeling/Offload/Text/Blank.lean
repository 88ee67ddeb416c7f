import Offload.Text.Ranges

/-!
White space in the sense of the Unicode property `White_Space`, and trimming it off both ends of a
text.
-/
namespace Offload.Text

/-- The code points with the property `White_Space`. -/
def blankRanges : List (Nat × Nat) :=
  [(0x9, 0xd), (0x20, 0x20), (0x85, 0x85), (0xa0, 0xa0), (0x1680, 0x1680), (0x2000, 0x200a),
    (0x2028, 0x2029), (0x202f, 0x202f), (0x205f, 0x205f), (0x3000, 0x3000)]

def blanks : CharClass :=
  ⟨blankRanges, by decide⟩

def isBlank (c : Char) : Bool :=
  blanks.has c

def trimLeft (text : List Char) : List Char :=
  text.dropWhile isBlank

def trimRight (text : List Char) : List Char :=
  (text.reverse.dropWhile isBlank).reverse

/-- The text without blanks at its ends. -/
def trim (text : List Char) : List Char :=
  trimRight (trimLeft text)

/-- Nothing but blanks, or nothing at all. -/
def isAllBlank (text : List Char) : Bool :=
  text.all isBlank

end Offload.Text
