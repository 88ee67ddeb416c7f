/-!
Operation codes and argument tags: the bytes that start an instruction and an argument of a launch.
Every byte stands for at most one of them.
-/
namespace Offload

/-- The four copies between a host object and its device buffer. -/
inductive TransferKind where
  /-- To the device, unless the device already has the whole object. -/
  | inOnce
  | inAlways
  | outAlways
  /-- To the host, waiting for the copy to finish. -/
  | outBlocking
  deriving Repr, DecidableEq

inductive Opcode where
  | alloc
  | dealloc
  | transfer (kind : TransferKind)
  | launch
  | addDependency
  | onDevice
  | barrier
  | context
  | beginPass
  | endPass
  deriving Repr, DecidableEq

namespace Opcode

def byte : Opcode → UInt8
  | alloc => 0x10
  | dealloc => 0x11
  | transfer .inOnce => 0x12
  | transfer .inAlways => 0x13
  | transfer .outAlways => 0x14
  | transfer .outBlocking => 0x15
  | launch => 0x16
  | addDependency => 0x17
  | onDevice => 0x18
  | barrier => 0x19
  | context => 0x1a
  | beginPass => 0x1b
  | endPass => 0x1c

/-- All codes, by ascending byte. -/
def all : List Opcode :=
  [alloc, dealloc, transfer .inOnce, transfer .inAlways, transfer .outAlways, transfer .outBlocking,
    launch, addDependency, onDevice, barrier, context, beginPass, endPass]

def ofByte? (b : UInt8) : Option Opcode :=
  all.find? fun opcode => opcode.byte = b

/-- The name of an operation in listings and messages. -/
def mnemonic : Opcode → String
  | alloc => "ALLOC"
  | dealloc => "DEALLOC"
  | transfer .inOnce => "TRANSFER_HOST_TO_DEVICE_ONCE"
  | transfer .inAlways => "TRANSFER_HOST_TO_DEVICE_ALWAYS"
  | transfer .outAlways => "TRANSFER_DEVICE_TO_HOST_ALWAYS"
  | transfer .outBlocking => "TRANSFER_DEVICE_TO_HOST_ALWAYS_BLOCKING"
  | launch => "LAUNCH"
  | addDependency => "ADD_DEPENDENCY"
  | onDevice => "ON_DEVICE"
  | barrier => "BARRIER"
  | context => "CONTEXT"
  | beginPass => "BEGIN"
  | endPass => "END"

/-- The tag of an operation where instructions are written as data. -/
def name : Opcode → String
  | alloc => "Alloc"
  | dealloc => "Dealloc"
  | transfer .inOnce => "TransferH2dOnce"
  | transfer .inAlways => "TransferH2dAlways"
  | transfer .outAlways => "TransferD2hAlways"
  | transfer .outBlocking => "TransferD2hAlwaysBlocking"
  | launch => "Launch"
  | addDependency => "AddDependency"
  | onDevice => "OnDevice"
  | barrier => "Barrier"
  | context => "Context"
  | beginPass => "Begin"
  | endPass => "End"

def ofName? (text : String) : Option Opcode :=
  all.find? fun opcode => opcode.name = text

def isTransfer : Opcode → Bool
  | transfer _ => true
  | _ => false

theorem ofByte?_byte (opcode : Opcode) : ofByte? opcode.byte = some opcode := by
  cases opcode with
  | transfer kind => cases kind <;> rfl
  | _ => rfl

theorem byte_of_ofByte? {b : UInt8} {opcode : Opcode} (h : ofByte? b = some opcode) :
    opcode.byte = b := by
  simpa using List.find?_some h

end Opcode

/-- What an argument of a launch refers to. -/
inductive ArgumentTag where
  | pushConstant
  | pushReference
  deriving Repr, DecidableEq

namespace ArgumentTag

def name : ArgumentTag → String
  | pushConstant => "PushConstant"
  | pushReference => "PushReference"

def byte : ArgumentTag → UInt8
  | pushConstant => 0x20
  | pushReference => 0x21

def ofByte? (b : UInt8) : Option ArgumentTag :=
  if b = 0x20 then some pushConstant else if b = 0x21 then some pushReference else none

theorem ofByte?_byte (tag : ArgumentTag) : ofByte? tag.byte = some tag := by
  cases tag <;> rfl

theorem byte_of_ofByte? {b : UInt8} {tag : ArgumentTag} (h : ofByte? b = some tag) : tag.byte = b := by
  unfold ofByte? at h
  split at h
  next same => cases h; exact same.symm
  next =>
    split at h
    next same => cases h; exact same.symm
    next => cases h

end ArgumentTag
end Offload
