import Offload.Context

/-!
Which device buffer each object of a context is bound to, and whether that buffer has received the
whole object.
-/
namespace Offload

structure Binding where
  buffer : Option DeviceBuffer := none
  atomic : Bool := false
  /-- The buffer has received the whole object since it was bound. -/
  hasContent : Bool := false
  deriving Repr, DecidableEq

namespace Binding

def isBound (b : Binding) : Bool :=
  b.buffer.isSome

def bind (b : Binding) (buffer : DeviceBuffer) : Binding :=
  { b with buffer := some buffer, hasContent := false }

def unbind (b : Binding) : Binding :=
  { b with buffer := none, hasContent := false }

def setContent (b : Binding) (present : Bool) : Binding :=
  { b with hasContent := present }

/-- The bytes of the bound buffer. -/
def boundBytes (b : Binding) : Nat :=
  (b.buffer.map DeviceBuffer.size).getD 0

end Binding

/-- The bindings of the objects of a context, in the same order. -/
structure Bindings where
  entries : List Binding := []
  deriving Repr, DecidableEq

namespace Bindings

/-- Nothing is bound yet. -/
def ofContext (c : Context) : Bindings :=
  ⟨c.objects.map fun entry => { atomic := entry.atomic }⟩

def get (b : Bindings) (object : Nat) : Except MachineError Binding :=
  match b.entries[object]? with
  | some binding => .ok binding
  | none => .error (.malformed (.noBinding object))

def modify (b : Bindings) (object : Nat) (change : Binding → Binding) : Bindings :=
  ⟨b.entries.modify object change⟩

/-- The objects that are bound, with their buffers. -/
def bound (b : Bindings) : List (Nat × DeviceBuffer) :=
  (b.entries.zipIdx).filterMap fun (binding, object) => binding.buffer.map (object, ·)

/-- The bytes of all bound buffers. -/
def boundBytes (b : Bindings) : Nat :=
  (b.entries.map Binding.boundBytes).sum

def unbindAll (b : Bindings) : Bindings :=
  ⟨b.entries.map Binding.unbind⟩

end Bindings
end Offload
