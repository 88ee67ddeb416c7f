import Offload.Code.Assembly
import Offload.Code.Decode
import Offload.Code.Listing
import Offload.Json.Member

/-!
Instructions as JSON: an object with one member, named for the operation, that holds the operands by
name. Those of a transfer and of a launch may also be read from an array. The marks of a pass have no
operands and are written by their name alone.
-/
namespace Offload

def DecodeError.toJson (e : DecodeError) : Json :=
  .obj [("error", e.name), ("message", e.message), ("offset", e.offset)]

/-- The answer of a reader. -/
def Json.ofDecoded {α : Type} (encode : α → Json) : Except DecodeError α → Json :=
  Json.ofExcept DecodeError.toJson encode

def Header.toJson (h : Header) : Json :=
  .obj [("skip", h.skipBytes), ("lists", h.eventLists)]

def Entry.toJson (entry : Entry) : Json :=
  .arr [entry.offset, entry.instruction.text]

namespace LaunchArg

def toJson : LaunchArg → Json
  | constant i => .obj [("Constant", i.toNat)]
  | reference i => .obj [("Reference", i.toNat)]

def ofJson : Json → Decoded LaunchArg
  | .obj [("Constant", i)] => constant <$> i.word32
  | .obj [("Reference", i)] => reference <$> i.word32
  | _ => Json.malformed

end LaunchArg

/-- A list operand. -/
def Json.ofListOperand (list : Option UInt32) : Json :=
  Json.ofOption (fun l : UInt32 => l.toNat) list

def Json.listOperand (j : Json) : Decoded (Option UInt32) :=
  j.optional "event_list" Json.word32

namespace Transfer

def operands (t : Transfer) : List (String × Json) :=
  [("object", t.object.toNat), ("event_list", .ofListOperand t.list), ("offset", t.offset.toNat),
    ("batch_size", t.batchSize.toNat)]

def ofJson (j : Json) : Decoded Transfer := do
  pure
    { object := ← j.required "object" Json.word32
      list := ← j.listOperand
      offset := ← j.required "offset" Json.word64
      batchSize := ← j.required "batch_size" Json.word64 }

end Transfer

namespace Launch

def operands (l : Launch) : List (String × Json) :=
  [("call_wrapper", l.wrapper.toNat), ("task", l.task.toNat), ("event_list", .ofListOperand l.list),
    ("offset", l.offset.toNat), ("batch_threads", l.batchThreads.toNat),
    ("args", .ofList LaunchArg.toJson l.args)]

def ofJson (j : Json) : Decoded Launch := do
  pure
    { wrapper := ← j.required "call_wrapper" Json.word32
      task := ← j.required "task" Json.word32
      list := ← j.listOperand
      offset := ← j.required "offset" Json.word64
      batchThreads := ← j.required "batch_threads" Json.word64
      args := ← j.required "args" (Json.list LaunchArg.ofJson) }

end Launch

namespace Instruction

/-- The operands by name; nothing for the marks of a pass. -/
def operands : Instruction → List (String × Json)
  | alloc batchSize objects =>
    [("batch_size", batchSize.toNat), ("objects", .ofNats (objects.map UInt32.toNat))]
  | dealloc object => [("object", object.toNat)]
  | transfer _ t => t.operands
  | launch l => l.operands
  | addDependency list => [("event_list", .ofListOperand list)]
  | onDevice object => [("object", object.toNat)]
  | barrier list => [("event_list", .ofListOperand list)]
  | context device => [("device", device.toNat)]
  | beginPass => []
  | endPass => []

def toJson (i : Instruction) : Json :=
  match i.operands with
  | [] => .str i.opcode.name
  | members => .obj [(i.opcode.name, .obj members)]

/-- The instruction of an opcode with operands. -/
def ofOperands (opcode : Opcode) (j : Json) : Decoded Instruction :=
  match opcode with
  | .alloc => do
    let batchSize ← j.required "batch_size" Json.word64
    pure (alloc batchSize (← j.required "objects" (Json.list Json.word32)))
  | .dealloc => dealloc <$> j.required "object" Json.word32
  | .transfer kind => transfer kind <$> Transfer.ofJson j
  | .launch => launch <$> Launch.ofJson j
  | .addDependency => addDependency <$> j.listOperand
  | .onDevice => onDevice <$> j.required "object" Json.word32
  | .barrier => barrier <$> j.listOperand
  | .context => context <$> j.required "device" Json.word32
  | .beginPass => Json.malformed
  | .endPass => Json.malformed

/-- The names of the operands that may stand in this order without them. -/
def orderedOperands? : Opcode → Option (List String)
  | .transfer _ => some ["object", "event_list", "offset", "batch_size"]
  | .launch => some ["call_wrapper", "task", "event_list", "offset", "batch_threads", "args"]
  | _ => none

/-- The instruction of an opcode with all its operands in order. -/
def ofOrdered (opcode : Opcode) (items : List Json) : Decoded Instruction := do
  let names ← Json.orMalformed (orderedOperands? opcode)
  if names.length = items.length then ofOperands opcode (.obj (names.zip items)) else Json.malformed

/-- The mark of a pass with that name. -/
def markOf? (name : String) : Option Instruction :=
  [beginPass, endPass].find? fun i => i.opcode.name = name

def ofJson : Json → Decoded Instruction
  | .str name => Json.orMalformed (markOf? name)
  | .obj [(name, .null)] => Json.orMalformed (markOf? name)
  | .obj [(name, .obj members)] => do
    ofOperands (← Json.orMalformed (Opcode.ofName? name)) (.obj members)
  | .obj [(name, .arr items)] => do
    ofOrdered (← Json.orMalformed (Opcode.ofName? name)) items
  | _ => Json.malformed

/-- The instruction with all that is derived from it. -/
def summary (i : Instruction) : Json :=
  .obj [("text", i.text), ("opcode", i.opcode.mnemonic), ("byte", i.opcode.byte.toNat),
    ("transfer", i.opcode.isTransfer), ("list", .ofListOperand i.eventList), ("hex", .ofBytes i.encode),
    ("json", i.toJson)]

end Instruction

namespace Assembly

def ofJson (j : Json) : Decoded Assembly := do
  pure
    { declaredLists := ← j.orDefault "event_lists" Json.natural
      reserved := ← j.orDefault "reserved" Json.hexBytes
      instructions := ← j.orDefault "instrs" (Json.list Instruction.ofJson) }

/-- The bytes of a program, which are given as they are or put together. -/
def programOfJson (j : Json) : Decoded Bytes :=
  match j.given? "hex" with
  | some bytes => bytes.hexBytes
  | none => Assembly.bytes <$> ofJson j

end Assembly
end Offload
