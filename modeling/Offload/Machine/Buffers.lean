import Offload.Machine.Basic

/-!
Allocation and release of the buffers of a machine. A request that cannot be met as a whole changes
nothing: neither bindings, nor the budget, nor the device.
-/
namespace Offload.Machine

/-- A buffer that an allocation asks for. -/
structure BufferRequest where
  object : Nat
  size : Nat
  deriving Repr, DecidableEq

/-- The buffers that the listed objects still need: none for an object that is bound, was listed
before or is the kernel context. A batch size of zero stands for the size of the object. -/
def bufferRequests (c : Context) (b : Bindings) (batchSize : Nat) :
    List UInt32 → List BufferRequest → Except MachineError (List BufferRequest)
  | [], requests => .ok requests
  | index :: rest, requests => do
    let object := index.toNat
    let entry ← c.object object
    let binding ← b.get object
    if binding.isBound || requests.any (fun r => r.object = object) || entry.object.isKernelContext then
      bufferRequests c b batchSize rest requests
    else
      let size := if 0 < batchSize then batchSize else entry.object.byteSize
      bufferRequests c b batchSize rest (requests ++ [⟨object, size⟩])

/-- Bind the buffers to the objects they were requested for. -/
def bindAll : List (BufferRequest × DeviceBuffer) → MachineOp Unit
  | [] => pure ()
  | (request, buffer) :: rest => do
    Session.modifyBinding request.object fun b => b.bind buffer
    addMetric .allocationBytes (objectKey request.object) buffer.size
    bindAll rest

/-- Give every listed object a buffer. -/
def alloc (batchSize : Nat) (objects : List UInt32) : MachineOp Unit := do
  let s ← Op.get
  let requests ← Op.ofExcept (bufferRequests s.context s.machine.bindings batchSize objects [])
  if requests.isEmpty then pure ()
  else do
    let sizes := requests.map BufferRequest.size
    Op.ofExcept (s.context.memory.check sizes.sum)
    let buffers ← Session.onDevice (Device.allocate sizes)
    let bytes := (buffers.map DeviceBuffer.size).sum
    Session.modifyMemory fun b => b.add bytes
    bindAll (requests.zip buffers)
    Op.emit (Performance.allocation requests.length bytes (s.context.memory.usage + bytes))

/-- Give the buffer of an object back; the result is its size. -/
def dealloc (object : Nat) : MachineOp Nat := do
  let s ← Op.get
  let entry ← Op.ofExcept (s.context.object object)
  let binding ← Op.ofExcept (s.machine.bindings.get object)
  match binding.buffer with
  | none => do
    if entry.object.isKernelContext then pure ()
    else
      Op.emit ⟨.warn, some "DEALLOC of an object without a device buffer", [("object", object)]⟩
    pure 0
  | some buffer => do
    let freed ← Session.onDevice (Device.deallocate buffer)
    Session.modifyBinding object Binding.unbind
    Session.modifyMemory fun b => b.sub freed
    let usage := s.context.memory.usage - freed
    Op.emit ⟨.debug, some "buffer_released", [("object", object), ("freed", freed), ("usage", usage)]⟩
    pure freed

/-- Give the buffers of several objects back; the result is the sum of their sizes. -/
def deallocAll : List Nat → MachineOp Nat
  | [] => pure 0
  | object :: rest => do
    let freed ← dealloc object
    let others ← deallocAll rest
    pure (freed + others)

/-- Give every bound buffer back. -/
def freeDeviceMemory : MachineOp Nat := do
  let s ← Op.get
  deallocAll (s.machine.bindings.bound.map (·.1))

end Offload.Machine
