import Offload.Machine.Basic

/-!
Copies between host objects and their buffers. A copy waits for the events of its list and then
empties the list; it covers the whole object or a batch of it, cut off at the end of the object.
-/
namespace Offload.Machine

/-- The host bytes that a transfer covers in an object of `size` bytes. -/
def transferRange (t : Transfer) (size : Nat) : Except MachineError HostRange :=
  if t.batchSize = 0 then .ok (.full size)
  else if size < t.offset.toNat then
    .error (.malformed (.pastEnd t.offset.toNat t.object.toNat size))
  else .ok ⟨t.offset.toNat, min (t.offset.toNat + t.batchSize.toNat) size - t.offset.toNat⟩

/-- Add the times of finished events. -/
def addEventTimes (timer : TimerKind) : List EventId → MachineOp Unit
  | [] => pure ()
  | event :: rest => do
    let profile ← Session.onDevice (Device.resolveEvent event)
    addTimer timer profile.elapsed
    addTimer .dispatchTransfers profile.dispatch
    addEventTimes timer rest

/-- Measure a copy: wait for its events, and count its bytes for the object. -/
def profileTransfer (events : List EventId) (timer : TimerKind) (metric : MetricKind)
    (object bytes : Nat) : MachineOp Unit := do
  let s ← Op.get
  if s.machine.profiler.isEnabled then do
    Session.onDevice (Device.waitEvents events)
    addEventTimes timer events
    addMetric metric (objectKey object) bytes
  else pure ()

/-- Copy to the device. With `once`, a copy of the whole object is left out when the buffer has
received it before. -/
def transferIn (t : Transfer) (once : Bool) : MachineOp Unit := do
  let s ← Op.get
  let object := t.object.toNat
  let entry ← Op.ofExcept (s.context.object object)
  if entry.object.isKernelContext then pure ()
  else do
    let buffer ← Op.ofExcept (s.machine.boundBuffer .copyIn object)
    let binding ← Op.ofExcept (s.machine.bindings.get object)
    let whole := t.batchSize = 0
    if once ∧ whole ∧ binding.hasContent then resetList t.list
    else do
      let range ← Op.ofExcept (transferRange t entry.object.byteSize)
      let wait ← waitList t.list
      let events ← Session.onDevice (Device.streamIn entry.object buffer range wait)
      if whole then Session.modifyBinding object fun b => b.setContent true
      else pure ()
      resetList t.list
      profileTransfer events .copyIn .copyInBytes object range.size

/-- An operation of the device that also changes a host object. -/
def onObject {α : Type} (index : Nat) (object : HostObject) (op : Device.CopyOut α) : MachineOp α :=
  (op.mapError MachineError.ofDevice).onPart (fun s => (object, s.device))
    fun (object, device) s => { s with context := s.context.setObject index object, device }

/-- Copy to the host; the result is the event of the copy, or none for the kernel context. -/
def transferOut (t : Transfer) (blocking : Bool) : MachineOp (Option EventId) := do
  let s ← Op.get
  let object := t.object.toNat
  let entry ← Op.ofExcept (s.context.object object)
  if entry.object.isKernelContext then pure none
  else do
    let buffer ← Op.ofExcept (s.machine.boundBuffer .copyOut object)
    let range ← Op.ofExcept (transferRange t entry.object.byteSize)
    let wait ← waitList t.list
    let event ← onObject object entry.object
      (if blocking then Device.streamOutBlocking buffer range wait
        else Device.streamOut buffer range wait)
    resetList t.list
    profileTransfer [event] .copyOut .copyOutBytes object range.size
    pure (some event)

end Offload.Machine
