import Offload.Bytes
import Offload.Code.Opcode

/-!
Instructions: their operands, their bytes and their text. Operands are words; an instruction is
encodable when each of them keeps its sign bit clear, because the bytes hold signed numbers.
-/
namespace Offload

/-- Operands of the four transfers. -/
structure Transfer where
  object : UInt32
  /-- The event list whose events the copy waits for. -/
  list : Option UInt32
  /-- Where in the host object the copied range starts. -/
  offset : UInt64
  /-- How many bytes are copied at most; zero stands for the whole object. -/
  batchSize : UInt64
  deriving Repr, DecidableEq

/-- An argument of a launch, by its index in one of the tables of the context. -/
inductive LaunchArg where
  | constant (index : UInt32)
  | reference (index : UInt32)
  deriving Repr, DecidableEq

structure Launch where
  /-- The argument frame that is used again by every launch with the same number. -/
  wrapper : UInt32
  task : UInt32
  list : Option UInt32
  /-- The first global index of the launch. -/
  offset : UInt64
  /-- How many threads this batch has; zero when the task is not batched. -/
  batchThreads : UInt64
  args : List LaunchArg
  deriving Repr, DecidableEq

inductive Instruction where
  | alloc (batchSize : UInt64) (objects : List UInt32)
  | dealloc (object : UInt32)
  | transfer (kind : TransferKind) (operands : Transfer)
  | launch (operands : Launch)
  | addDependency (list : Option UInt32)
  | onDevice (object : UInt32)
  | barrier (list : Option UInt32)
  | context (device : UInt32)
  | beginPass
  | endPass
  deriving Repr, DecidableEq

namespace LaunchArg

def tag : LaunchArg → ArgumentTag
  | constant _ => .pushConstant
  | reference _ => .pushReference

def index : LaunchArg → UInt32
  | constant i => i
  | reference i => i

def ofTag (tag : ArgumentTag) (index : UInt32) : LaunchArg :=
  match tag with
  | .pushConstant => constant index
  | .pushReference => reference index

def encode (arg : LaunchArg) : Bytes :=
  arg.tag.byte :: Bytes.ofNatLE 4 arg.index.toNat

def text : LaunchArg → String
  | constant i => s!"const[{i}]"
  | reference i => s!"obj[{i}]"

end LaunchArg

/-- The bytes of an optional event list: minus one when there is none. -/
def encodeList (list : Option UInt32) : Bytes :=
  Bytes.ofNatLE 4 ((list.map UInt32.toNat).getD 0xffffffff)

def Transfer.encode (t : Transfer) : Bytes :=
  Bytes.ofNatLE 4 t.object.toNat ++ encodeList t.list ++ Bytes.ofNatLE 8 t.offset.toNat ++
    Bytes.ofNatLE 8 t.batchSize.toNat

def Launch.encode (l : Launch) : Bytes :=
  Bytes.ofNatLE 4 l.wrapper.toNat ++ Bytes.ofNatLE 4 l.task.toNat ++ Bytes.ofNatLE 4 l.args.length ++
    encodeList l.list ++ Bytes.ofNatLE 8 l.offset.toNat ++ Bytes.ofNatLE 8 l.batchThreads.toNat ++
    l.args.flatMap LaunchArg.encode

namespace Instruction

def opcode : Instruction → Opcode
  | alloc _ _ => .alloc
  | dealloc _ => .dealloc
  | transfer kind _ => .transfer kind
  | launch _ => .launch
  | addDependency _ => .addDependency
  | onDevice _ => .onDevice
  | barrier _ => .barrier
  | context _ => .context
  | beginPass => .beginPass
  | endPass => .endPass

def encodeOperands : Instruction → Bytes
  | alloc batchSize objects =>
    Bytes.ofNatLE 8 batchSize.toNat ++ Bytes.ofNatLE 4 objects.length ++
      objects.flatMap fun object => Bytes.ofNatLE 4 object.toNat
  | dealloc object => Bytes.ofNatLE 4 object.toNat
  | transfer _ operands => operands.encode
  | launch operands => operands.encode
  | addDependency list => encodeList list
  | onDevice object => Bytes.ofNatLE 4 object.toNat
  | barrier list => encodeList list
  | context device => Bytes.ofNatLE 4 device.toNat
  | beginPass => []
  | endPass => []

def encode (i : Instruction) : Bytes :=
  i.opcode.byte :: i.encodeOperands

/-- The event list that an instruction names, if any. -/
def eventList : Instruction → Option UInt32
  | transfer _ operands => operands.list
  | launch operands => operands.list
  | addDependency list => list
  | barrier list => list
  | _ => none

end Instruction

/-- An index or a list that a signed 32-bit operand holds. -/
def IndexEncodable (index : UInt32) : Prop :=
  index.toNat < 0x80000000

/-- A size or an offset that a signed 64-bit operand holds. -/
def SizeEncodable (size : UInt64) : Prop :=
  size.toNat < 0x8000000000000000

def ListEncodable (list : Option UInt32) : Prop :=
  ∀ index ∈ list, IndexEncodable index

/-- Every operand keeps its sign bit clear. -/
def Instruction.Encodable : Instruction → Prop
  | .alloc batchSize objects =>
    SizeEncodable batchSize ∧ objects.length < 0x80000000 ∧ ∀ object ∈ objects, IndexEncodable object
  | .dealloc object => IndexEncodable object
  | .transfer _ t =>
    IndexEncodable t.object ∧ ListEncodable t.list ∧ SizeEncodable t.offset ∧ SizeEncodable t.batchSize
  | .launch l =>
    IndexEncodable l.wrapper ∧ IndexEncodable l.task ∧ l.args.length < 0x80000000 ∧ ListEncodable l.list ∧
      SizeEncodable l.offset ∧ SizeEncodable l.batchThreads ∧ ∀ arg ∈ l.args, IndexEncodable arg.index
  | .addDependency list => ListEncodable list
  | .onDevice object => IndexEncodable object
  | .barrier list => ListEncodable list
  | .context device => IndexEncodable device
  | .beginPass => True
  | .endPass => True

end Offload
