import Offload.Code.Instruction

/-!
The text of instructions, one line each.
-/
namespace Offload

/-- A list operand: a dash when there is none. -/
def listText : Option UInt32 → String
  | some list => toString list
  | none => "-"

/-- Texts with commas between them. -/
def commaSeparated (texts : List String) : String :=
  ", ".intercalate texts

namespace Instruction

def text (i : Instruction) : String :=
  let name := i.opcode.mnemonic
  match i with
  | alloc batchSize objects =>
    s!"{name} batch={batchSize} objects=[{commaSeparated (objects.map toString)}]"
  | dealloc object => s!"{name} obj[{object}]"
  | onDevice object => s!"{name} obj[{object}]"
  | transfer _ t =>
    s!"{name} obj[{t.object}] list={listText t.list} offset={t.offset} batch={t.batchSize}"
  | launch l =>
    s!"{name} task[{l.task}] wrapper={l.wrapper} list={listText l.list} offset={l.offset} " ++
      s!"threads={l.batchThreads} args=[{commaSeparated (l.args.map LaunchArg.text)}]"
  | addDependency list => s!"{name} list={listText list}"
  | barrier list => s!"{name} list={listText list}"
  | context device => s!"{name} device={device}"
  | beginPass => name
  | endPass => name

/-- A line of a listing: the offset in a column of six places, and the text. -/
def listingLine (offset : Nat) (i : Instruction) : String :=
  let number := toString offset
  String.ofList (List.replicate (6 - number.length) ' ') ++ number ++ ": " ++ i.text

end Instruction
end Offload
