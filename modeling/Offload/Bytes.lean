/-!
Byte strings and fixed-width little-endian words. Reading back a written word gives the word modulo
its width, and writing a word read from bytes gives those bytes again.
-/
namespace Offload

/-- A byte string, first byte first. -/
abbrev Bytes := List UInt8

namespace Bytes

/-- The lowest `width` bytes of a number, lowest first. -/
def ofNatLE : Nat → Nat → Bytes
  | 0, _ => []
  | width + 1, value => UInt8.ofNat value :: ofNatLE width (value / 256)

/-- The number a byte string spells, lowest byte first. -/
def toNatLE : Bytes → Nat
  | [] => 0
  | byte :: rest => byte.toNat + 256 * toNatLE rest

/-- How many numbers fit in `width` bytes. -/
def capacity : Nat → Nat
  | 0 => 1
  | width + 1 => 256 * capacity width

/-- At most `size` bytes from `offset` on. -/
def slice (bytes : Bytes) (offset size : Nat) : Bytes :=
  (bytes.drop offset).take size

/-- Replace the bytes from `offset` on by `data`, which is expected to fit. -/
def overwrite (bytes : Bytes) (offset : Nat) (data : Bytes) : Bytes :=
  bytes.take offset ++ data ++ bytes.drop (offset + data.length)

/-- Zero bytes. -/
def zeros (size : Nat) : Bytes :=
  List.replicate size 0

/-- The next `count` words of `width` bytes, behind the words of `read` in reverse order. -/
def wordsFrom (width : Nat) (read : List Nat) : (count : Nat) → Bytes → List Nat
  | 0, _ => read.reverse
  | count + 1, bytes => wordsFrom width (toNatLE (bytes.take width) :: read) count (bytes.drop width)

/-- The consecutive little-endian words of `width` bytes; the last one is padded with zeros. -/
def words (width : Nat) (bytes : Bytes) : List Nat :=
  wordsFrom width [] ((bytes.length + width - 1) / width) bytes

/-- The words one after the other, each in `width` bytes. -/
def ofWords (width : Nat) (values : List Nat) : Bytes :=
  values.flatMap (ofNatLE width)

@[simp] theorem length_ofNatLE (width value : Nat) : (ofNatLE width value).length = width := by
  induction width generalizing value with
  | zero => rfl
  | succ width ih => simp [ofNatLE, ih]

/-- A number is read back up to what the width holds. -/
theorem toNatLE_ofNatLE (width value : Nat) :
    toNatLE (ofNatLE width value) = value % capacity width := by
  induction width generalizing value with
  | zero => simp [ofNatLE, toNatLE, capacity, Nat.mod_one]
  | succ width ih =>
    rw [ofNatLE, toNatLE, ih, capacity, Nat.mod_mul]
    rfl

/-- A word is below what its bytes can spell. -/
theorem toNatLE_lt (bytes : Bytes) : toNatLE bytes < capacity bytes.length := by
  induction bytes with
  | nil => simp [toNatLE, capacity]
  | cons byte rest ih =>
    have := byte.toNat_lt
    simp only [toNatLE, List.length_cons, capacity]
    omega

/-- Bytes are spelled by the number that they spell. -/
theorem ofNatLE_toNatLE (bytes : Bytes) : ofNatLE bytes.length (toNatLE bytes) = bytes := by
  induction bytes with
  | nil => rfl
  | cons byte rest ih =>
    have low := byte.toNat_lt
    have quotient : (byte.toNat + 256 * toNatLE rest) / 256 = toNatLE rest := by omega
    have head : UInt8.ofNat (byte.toNat + 256 * toNatLE rest) = byte := by
      apply UInt8.toNat_inj.1
      simp only [UInt8.toNat_ofNat']
      omega
    simp [ofNatLE, toNatLE, quotient, head, ih]

@[simp] theorem length_zeros (size : Nat) : (zeros size).length = size := by
  simp [zeros]

theorem length_slice (bytes : Bytes) (offset size : Nat) (fits : offset + size ≤ bytes.length) :
    (slice bytes offset size).length = size := by
  simp only [slice, List.length_take, List.length_drop]
  omega

theorem length_overwrite (bytes : Bytes) (offset : Nat) (data : Bytes)
    (fits : offset + data.length ≤ bytes.length) :
    (overwrite bytes offset data).length = bytes.length := by
  simp only [overwrite, List.length_append, List.length_take, List.length_drop]
  omega

/-- Bytes that are written over themselves. -/
theorem overwrite_slice (bytes : Bytes) (offset size : Nat) (inside : offset + size ≤ bytes.length) :
    overwrite bytes offset (slice bytes offset size) = bytes := by
  rw [overwrite, length_slice bytes offset size inside, slice, ← List.drop_drop, List.append_assoc,
    List.take_append_drop, List.take_append_drop]

/-- Each word is read from its own place. -/
theorem wordsFrom_eq (width : Nat) (read : List Nat) (count : Nat) (bytes : Bytes) :
    wordsFrom width read count bytes =
      read.reverse ++ (List.range count).map fun i => toNatLE (slice bytes (i * width) width) := by
  induction count generalizing read bytes with
  | zero => simp [wordsFrom]
  | succ count ih =>
    have later (i : Nat) : slice (bytes.drop width) (i * width) width =
        slice bytes ((i + 1) * width) width := by
      simp only [slice, List.drop_drop, Nat.succ_mul, Nat.add_comm]
    have first : toNatLE (bytes.take width) = toNatLE (slice bytes (0 * width) width) := by
      simp [slice]
    rw [wordsFrom, ih, List.range_succ_eq_map, List.map_cons, List.map_map]
    simp only [later, first, Function.comp_def, List.reverse_cons, List.append_assoc,
      List.singleton_append]

end Bytes
end Offload
