import Offload.Bytes
import Offload.Code.Error
import Offload.Op

/-!
A cursor over program bytes and the readers of operands. A reader that runs out of bytes leaves the
cursor where the operand starts; one that refuses a value leaves it behind the operand.
-/
namespace Offload

structure Cursor where
  bytes : Bytes
  position : Nat := 0
  /-- Where `reset` goes back to. -/
  marked : Nat := 0
  deriving Repr, DecidableEq

/-- A reader: an operation on a cursor. It never logs. -/
abbrev Decoder (α : Type) := Op DecodeError Cursor α

/-- What the header of a program declares. -/
structure Header where
  /-- How many reserved bytes follow the header. -/
  skipBytes : Nat
  eventLists : Nat
  deriving Repr, DecidableEq

/-- The signed reading of a word of `width` bytes. -/
def signedWord (width word : Nat) : Int :=
  if 2 * word < Bytes.capacity width then word else (word : Int) - Bytes.capacity width

namespace Cursor

def ofBytes (bytes : Bytes) : Cursor :=
  { bytes }

def remaining (c : Cursor) : Nat :=
  c.bytes.length - c.position

def hasRemaining (c : Cursor) : Bool :=
  c.position < c.bytes.length

/-- The bytes not read yet. -/
def rest (c : Cursor) : Bytes :=
  c.bytes.drop c.position

def mark (c : Cursor) : Cursor :=
  { c with marked := c.position }

/-- Back to the mark. -/
def reset (c : Cursor) : Cursor :=
  { c with position := c.marked }

/-- Cursor and mark back to the first byte. -/
def rewind (c : Cursor) : Cursor :=
  { c with position := 0, marked := 0 }

/-- The next `count` bytes. -/
def take (count : Nat) : Decoder Bytes :=
  Op.step fun c =>
    if c.remaining < count then .error (.truncated c.position count c.remaining)
    else .ok (c.rest.take count, { c with position := c.position + count })

/-- Step over `count` bytes. -/
def skip (count : Nat) : Decoder Unit := do
  let _ ← take count

def readByte : Decoder UInt8 := do
  let bytes ← take 1
  pure (UInt8.ofNat (Bytes.toNatLE bytes))

def readInt32 : Decoder Int := do
  let bytes ← take 4
  pure (signedWord 4 (Bytes.toNatLE bytes))

def readInt64 : Decoder Int := do
  let bytes ← take 8
  pure (signedWord 8 (Bytes.toNatLE bytes))

/-- A signed 32-bit operand that may not be negative. -/
def readIndex (field : String) : Decoder UInt32 := do
  let offset ← Op.gets position
  let value ← readInt32
  if value < 0 then Op.fail (.negativeOperand field value offset)
  else pure (UInt32.ofNat value.toNat)

/-- A signed 64-bit operand that may not be negative. -/
def readSize (field : String) : Decoder UInt64 := do
  let offset ← Op.gets position
  let value ← readInt64
  if value < 0 then Op.fail (.negativeOperand field value offset)
  else pure (UInt64.ofNat value.toNat)

/-- An event list; minus one stands for none. -/
def readList : Decoder (Option UInt32) := do
  let offset ← Op.gets position
  let value ← readInt32
  if value = -1 then pure none
  else if value < 0 then Op.fail (.negativeOperand "event list" value offset)
  else pure (some (UInt32.ofNat value.toNat))

/-- The header at the first byte; the cursor ends behind the reserved bytes. -/
def readHeader : Decoder Header := do
  Op.modify rewind
  let skipBytes ← readSize "header skip length"
  let eventLists ← readIndex "event list count"
  skip skipBytes.toNat
  pure ⟨skipBytes.toNat, eventLists.toNat⟩

end Cursor
end Offload
