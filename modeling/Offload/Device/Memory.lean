import Offload.Device.Error
import Offload.Device.Types
import Offload.Table

/-!
Device memory: buffers under a capacity. Ids are given out in ascending order and never twice; a
buffer starts out with zeros and keeps its size while it lives.
-/
namespace Offload

/-- The content of a buffer. Bytes behind the written ones are zero. -/
structure Buffer where
  size : Nat
  written : Bytes
  written_le : written.length ≤ size
  deriving Repr, DecidableEq

namespace Buffer

def zeroed (size : Nat) : Buffer :=
  ⟨size, [], Nat.zero_le size⟩

/-- All bytes of the buffer. -/
def bytes (b : Buffer) : Bytes :=
  b.written ++ Bytes.zeros (b.size - b.written.length)

/-- The first `count` bytes. -/
def first (b : Buffer) (count : Nat) : Bytes :=
  b.written.take count ++ Bytes.zeros (count - b.written.length)

/-- Replace the first bytes by `data`, if it fits. -/
def overwrite? (b : Buffer) (data : Bytes) : Option Buffer :=
  if h : data.length ≤ b.size then
    some ⟨b.size, data ++ b.written.drop data.length, by
      have := b.written_le
      simp only [List.length_append, List.length_drop]
      omega⟩
  else none

@[simp] theorem length_bytes (b : Buffer) : b.bytes.length = b.size := by
  have := b.written_le
  simp only [bytes, List.length_append, Bytes.length_zeros]
  omega

@[simp] theorem bytes_zeroed (size : Nat) : (zeroed size).bytes = Bytes.zeros size := by
  simp [bytes, zeroed]

theorem first_eq_take (b : Buffer) {count : Nat} (fits : count ≤ b.size) :
    b.first count = b.bytes.take count := by
  simp only [first, bytes, Bytes.zeros, List.take_append, List.take_replicate]
  congr 2
  omega

theorem size_of_overwrite? {b b' : Buffer} {data : Bytes} (h : b.overwrite? data = some b') :
    b'.size = b.size := by
  unfold overwrite? at h
  split at h <;> cases h
  rfl

theorem bytes_of_overwrite? {b b' : Buffer} {data : Bytes} (h : b.overwrite? data = some b') :
    b'.bytes = data ++ b.bytes.drop data.length := by
  unfold overwrite? at h
  split at h <;> cases h
  have := b.written_le
  simp only [bytes, Bytes.zeros, List.length_append, List.length_drop, List.append_assoc,
    List.drop_append, List.drop_replicate]
  congr 3
  omega

end Buffer

structure Memory where
  capacity : Nat
  buffers : Table BufferId Buffer := {}
  nextId : BufferId := 1
  /-- The bytes of all live buffers. -/
  allocated : Nat := 0
  deriving Repr, DecidableEq

namespace Memory

def available (m : Memory) : Nat :=
  m.capacity - m.allocated

/-- Whether `size` more bytes fit. -/
def reserve (m : Memory) (size : Nat) : Except DeviceError Unit :=
  if m.available < size then .error (.outOfMemory size m.available) else .ok ()

/-- One more buffer, room for it taken for granted. -/
def addBuffer (m : Memory) (size : Nat) : DeviceBuffer × Memory :=
  (⟨m.nextId, size⟩,
    { m with
      buffers := m.buffers.insert m.nextId (.zeroed size)
      nextId := m.nextId + 1
      allocated := m.allocated + size })

def addBuffers (m : Memory) : List Nat → List DeviceBuffer × Memory
  | [] => ([], m)
  | size :: sizes =>
    let (buffer, m) := m.addBuffer size
    let (buffers, m) := m.addBuffers sizes
    (buffer :: buffers, m)

/-- Buffers of these sizes, all of them or none. -/
def allocate (m : Memory) (sizes : List Nat) : Except DeviceError (List DeviceBuffer × Memory) := do
  m.reserve sizes.sum
  pure (m.addBuffers sizes)

/-- Give a buffer back; the result is its size. -/
def free (m : Memory) (id : BufferId) : Except DeviceError (Nat × Memory) :=
  match m.buffers.get? id with
  | none => .error (.invalidBuffer id)
  | some buffer =>
    .ok (buffer.size, { m with buffers := m.buffers.erase id, allocated := m.allocated - buffer.size })

def buffer (m : Memory) (id : BufferId) : Except DeviceError Buffer :=
  match m.buffers.get? id with
  | none => .error (.invalidBuffer id)
  | some buffer => .ok buffer

/-- Overwrite the first bytes of a buffer. -/
def write (m : Memory) (id : BufferId) (data : Bytes) : Except DeviceError Memory := do
  let buffer ← m.buffer id
  match buffer.overwrite? data with
  | none => .error (.outOfBounds 0 data.length buffer.size)
  | some buffer => pure { m with buffers := m.buffers.insert id buffer }

/-- The first `count` bytes of a buffer. -/
def read (m : Memory) (id : BufferId) (count : Nat) : Except DeviceError Bytes := do
  let buffer ← m.buffer id
  if count ≤ buffer.size then pure (buffer.first count)
  else .error (.outOfBounds 0 count buffer.size)

/-- All bytes of a buffer. -/
def contents (m : Memory) (id : BufferId) : Except DeviceError Bytes := do
  let buffer ← m.buffer id
  pure buffer.bytes

/-- Drop every buffer. Ids already given out stay used. -/
def clear (m : Memory) : Memory :=
  { m with buffers := {}, allocated := 0 }

end Memory
end Offload
