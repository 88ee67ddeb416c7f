import Offload.Code.Instruction

/-!
Programs as they are put together: a header, reserved bytes and instructions. The header declares
enough event lists for every list that an instruction names.
-/
namespace Offload

structure Assembly where
  /-- How many event lists are declared beside those that instructions name. -/
  declaredLists : Nat := 0
  reserved : Bytes := []
  instructions : List Instruction := []
  deriving Repr, DecidableEq

namespace Assembly

def push (a : Assembly) (i : Instruction) : Assembly :=
  { a with instructions := a.instructions ++ [i] }

/-- One more than the highest list an instruction names, or zero when it names none. -/
def listsNamedBy (i : Instruction) : Nat :=
  match i.eventList with
  | some list => list.toNat + 1
  | none => 0

/-- How many event lists the header declares. -/
def eventLists (a : Assembly) : Nat :=
  a.instructions.foldl (fun lists i => max lists (listsNamedBy i)) a.declaredLists

def body (a : Assembly) : Bytes :=
  a.instructions.flatMap Instruction.encode

/-- The bytes of the program. -/
def bytes (a : Assembly) : Bytes :=
  Bytes.ofNatLE 8 a.reserved.length ++ Bytes.ofNatLE 4 a.eventLists ++ a.reserved ++ a.body

end Assembly
end Offload
