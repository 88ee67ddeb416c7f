import Offload.Device.Error
import Offload.Host.Scalar

/-!
Host objects: typed arrays, boxed scalars and the marker of the kernel context, which takes no device
memory. Copies read and write ranges of an object's bytes; a range that does not fit changes nothing.
-/
namespace Offload

/-- An array as the little-endian bytes of its elements. -/
structure HostArray where
  element : Element
  bytes : Bytes
  deriving Repr, DecidableEq

namespace HostArray

def zeroed (element : Element) (length : Nat) : HostArray :=
  ⟨element, Bytes.zeros (length * element.size)⟩

/-- The array whose elements have these words; higher bits are dropped. -/
def ofWords (element : Element) (words : List Nat) : HostArray :=
  ⟨element, Bytes.ofWords element.size words⟩

/-- How many elements there are. -/
def length (a : HostArray) : Nat :=
  a.bytes.length / a.element.size

/-- The elements, for a reader that expects their type. -/
def toScalars (a : HostArray) (expected : Element) : Except DeviceError (List Scalar) :=
  if expected = a.element then
    .ok ((Bytes.words a.element.size a.bytes).map (Scalar.ofWord a.element))
  else .error (.typeMismatch a.element.name expected.name)

/-- Replace one byte, if there is one at that offset. -/
def poke? (a : HostArray) (offset : Nat) (byte : UInt8) : Option HostArray :=
  if offset < a.bytes.length then some { a with bytes := a.bytes.set offset byte } else none

end HostArray

inductive HostObject where
  | array (value : HostArray)
  | scalar (value : Scalar)
  | kernelContext
  deriving Repr, DecidableEq

/-- How a kernel uses an object. -/
inductive Access where
  | readOnly
  | writeOnly
  | readWrite
  | none
  deriving Repr, DecidableEq

namespace Access

def name : Access → String
  | readOnly => "ReadOnly"
  | writeOnly => "WriteOnly"
  | readWrite => "ReadWrite"
  | none => "None"

def ofName? (text : String) : Option Access :=
  [readOnly, writeOnly, readWrite, none].find? fun access => access.name = text

end Access

namespace HostObject

/-- The bytes as they are laid out on the device. -/
def bytes : HostObject → Bytes
  | array value => value.bytes
  | scalar value => value.bytes
  | kernelContext => []

def byteSize (o : HostObject) : Nat :=
  o.bytes.length

def isKernelContext (o : HostObject) : Bool :=
  o = kernelContext

def element? : HostObject → Option Element
  | array value => some value.element
  | scalar value => some value.element
  | kernelContext => none

def requiresDouble (o : HostObject) : Bool :=
  o.element?.any Element.requiresDouble

/-- The object with other bytes of the same number. -/
def withBytes (o : HostObject) (bytes : Bytes) : HostObject :=
  match o with
  | array value => array { value with bytes }
  | scalar value => scalar (Scalar.ofWord value.element (Bytes.toNatLE bytes))
  | kernelContext => kernelContext

/-- The `size` bytes from `offset` on. -/
def readRange (o : HostObject) (offset size : Nat) : Except DeviceError Bytes :=
  if offset + size ≤ o.byteSize then .ok (Bytes.slice o.bytes offset size)
  else .error (.outOfBounds offset size o.byteSize)

/-- Overwrite the bytes from `offset` on. -/
def writeRange (o : HostObject) (offset : Nat) (data : Bytes) : Except DeviceError HostObject :=
  if offset + data.length ≤ o.byteSize then .ok (o.withBytes (Bytes.overwrite o.bytes offset data))
  else .error (.outOfBounds offset data.length o.byteSize)

def text : HostObject → String
  | array value => s!"{value.element.name}[{value.length}]"
  | scalar value => value.text
  | kernelContext => "kernel-context"

theorem bytes_withBytes {o : HostObject} {data : Bytes} (same : data.length = o.byteSize) :
    (o.withBytes data).bytes = data := by
  cases o with
  | array => rfl
  | scalar s =>
    have size : data.length = s.element.size := same.trans s.length_bytes
    exact Scalar.bytes_of_ofBytes? (e := s.element) (if_pos size)
  | kernelContext => exact (List.length_eq_zero_iff.1 same).symm

theorem withBytes_bytes (o : HostObject) : o.withBytes o.bytes = o := by
  cases o with
  | array value => rfl
  | scalar value => rw [bytes, withBytes, Scalar.toNatLE_bytes, Scalar.ofWord_word]
  | kernelContext => rfl

theorem element?_withBytes (o : HostObject) (data : Bytes) : (o.withBytes data).element? = o.element? := by
  cases o with
  | scalar s => simp [withBytes, element?, Scalar.element_ofWord]
  | _ => rfl

theorem readRange_inside {o : HostObject} {offset size : Nat} (inside : offset + size ≤ o.byteSize) :
    o.readRange offset size = .ok (Bytes.slice o.bytes offset size) := if_pos inside

theorem writeRange_inside {o : HostObject} {offset : Nat} {data : Bytes}
    (inside : offset + data.length ≤ o.byteSize) :
    o.writeRange offset data = .ok (o.withBytes (Bytes.overwrite o.bytes offset data)) := if_pos inside

end HostObject
end Offload
