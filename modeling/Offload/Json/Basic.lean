/-!
JSON values. An object keeps its members in the order of the text, repeated names included.
-/
namespace Offload

/-- A JSON value. `int` is an integer literal that fits 64 bits, signed or unsigned; `real` is any
other number and keeps its literal. `unreadable` is a string that escapes half of a surrogate pair, or
an object with such a name: the grammar has them, but they spell no text. -/
inductive Json where
  | null
  | bool (value : Bool)
  | int (value : Int)
  | real (literal : String)
  | str (value : String)
  | arr (items : List Json)
  | obj (members : List (String × Json))
  | unreadable
  deriving Repr, Inhabited

namespace Json

def ofNat (n : Nat) : Json :=
  .int n

instance : Coe String Json := ⟨.str⟩
instance : Coe Bool Json := ⟨.bool⟩
instance : Coe Nat Json := ⟨ofNat⟩
instance : Coe Int Json := ⟨.int⟩

/-- The member of that name; of several, the last. -/
def member? (name : String) : Json → Option Json
  | .obj members => (members.reverse.find? fun entry => entry.1 = name).map (·.2)
  | _ => none

def string? : Json → Option String
  | .str value => some value
  | _ => none

def bool? : Json → Option Bool
  | .bool value => some value
  | _ => none

def int? : Json → Option Int
  | .int value => some value
  | _ => none

/-- A number that 64 bits hold, without a sign. -/
def nat? : Json → Option Nat
  | .int value => if 0 ≤ value then some value.toNat else none
  | _ => none

def array? : Json → Option (List Json)
  | .arr items => some items
  | _ => none

def object? : Json → Option (List (String × Json))
  | .obj members => some members
  | _ => none

mutual

/-- Whether all strings and names spell texts. -/
def isReadable : Json → Bool
  | .arr items => areReadable items
  | .obj members => haveReadable members
  | .unreadable => false
  | .null | .bool _ | .int _ | .real _ | .str _ => true

def areReadable : List Json → Bool
  | [] => true
  | item :: rest => isReadable item && areReadable rest

def haveReadable : List (String × Json) → Bool
  | [] => true
  | (_, item) :: rest => isReadable item && haveReadable rest

end

end Json
end Offload
