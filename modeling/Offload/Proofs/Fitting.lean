import Offload.Proofs.Elementwise
import Offload.Proofs.Measurements

/-! What a device does for the runs of a machine, when the requests fit: the copies between a host object
and the start of a buffer, and the launches. They go through on a device whose events are in order, and
leave their data where it belongs. -/
namespace Offload.Device

variable {α : Type} {d : Device} {object : HostObject} {buffer : DeviceBuffer}
  {old data : Bytes} {wait : List EventId}

/-- The device holds this data, its events are in order, and the event is one of them. -/
structure Recorded (d : Device) (event : EventId) (after : Device) : Prop where
  data : after.data = d.data
  sound : after.events.Sound
  known : after.events.Knows event

/-- A command that was carried out is recorded, counted and logged. -/
theorem recorded_reaches {kind : EventKind} {change : DeviceCounters → DeviceCounters} {log : LogEvent}
    {make : EventId → α} (sound : d.events.Sound) (known : ∀ w ∈ wait, d.events.Knows w) :
    Op.Reaches (do
      let event ← recordEvent kind wait
      count change
      Op.emit log
      pure (make event) : DeviceOp α) d fun a after => ∃ event, a = make event ∧ Recorded d event after := by
  obtain ⟨event, t, recorded, later, fresh⟩ := sound.record_ok known kind
  refine Op.reaches_after (a := event) (t := { d with events := t }) ?_ ?_
  · rw [recordEvent, onEvents, Op.yields_step, recorded]
    rfl
  · exact Op.reaches_modify_bind (Op.reaches_emit_bind (Op.reaches_pure ⟨event, rfl, rfl, later.sound, fresh⟩))

/-- A copy to the device replaces the first bytes of the buffer. -/
theorem streamIn_reaches (range : HostRange) (read : object.readRange range.offset range.size = .ok data)
    (holds : d.memory.contents buffer.id = .ok old) (fits : data.length ≤ old.length)
    (sound : d.events.Sound) (known : ∀ w ∈ wait, d.events.Knows w) :
    Op.Reaches (streamIn object buffer range wait) d fun events after => ∃ memory event, events = [event] ∧
      memory.contents buffer.id = .ok (data ++ old.drop data.length) ∧
      Recorded { d with memory } event after := by
  obtain ⟨memory, written, holds'⟩ := Memory.write_contents holds fits
  refine Op.reaches_ofExcept_bind read (Op.reaches_after (yields_writeBuffer.2 ⟨memory, written, rfl⟩) ?_)
  refine (recorded_reaches (d := { d with memory }) sound known).weaken fun events after ⟨event, same, recorded⟩ => ?_
  exact ⟨memory, event, same, holds', recorded⟩

/-- A copy to the host replaces the bytes of its range, and leaves the data of the device alone. -/
theorem streamOut_reaches (range : HostRange) {object' : HostObject}
    (holds : d.memory.contents buffer.id = .ok old) (fits : range.size ≤ old.length)
    (written : object.writeRange range.offset (old.take range.size) = .ok object')
    (sound : d.events.Sound) (known : ∀ w ∈ wait, d.events.Knows w) :
    Op.Reaches (streamOut buffer range wait) (object, d) fun event after =>
      after.1 = object' ∧ Recorded d event after.2 := by
  refine Op.reaches_get (Op.reaches_ofExcept_bind (Memory.read_contents holds fits) ?_)
  refine Op.reaches_after (a := ()) (t := (object', d)) ?_ ?_
  · rw [Op.yields_step]
    dsimp only
    rw [written]
    rfl
  · exact Op.reaches_onPart (recorded_reaches sound known) fun event after ⟨_, same, recorded⟩ =>
      ⟨rfl, same ▸ recorded⟩

/-- To wait for the copy leaves the data alone, too. -/
theorem streamOutBlocking_reaches (range : HostRange) {object' : HostObject}
    (holds : d.memory.contents buffer.id = .ok old) (fits : range.size ≤ old.length)
    (written : object.writeRange range.offset (old.take range.size) = .ok object')
    (sound : d.events.Sound) (known : ∀ w ∈ wait, d.events.Knows w) :
    Op.Reaches (streamOutBlocking buffer range wait) (object, d) fun event after =>
      after.1 = object' ∧ Recorded d event after.2 := by
  refine Op.reaches_bind (streamOut_reaches range holds fits written sound known)
    fun event after _ ⟨same, recorded⟩ => ?_
  obtain ⟨waited, ran, later⟩ := waitEvents_yields recorded.sound (List.forall_mem_singleton.2 recorded.known)
  refine Op.reaches_after (Op.yields_onPart.2 ⟨waited, ran, rfl⟩) (Op.reaches_pure ⟨same, ?_, later.sound, ?_⟩)
  · exact ((still_waitEvents _).yields ran).trans recorded.data
  · exact later.knows event recorded.known

/-- A launch of a good binary whose threads are counted runs its kernel. -/
theorem launch_reaches {code : Binary} {kernel : Kernel} {frame : List KernelArg} {grid : Grid} {offset threads : Nat}
    {memory : Memory} {reports : List KernelReport} (good : d.kernelOf code = .ok kernel)
    (counted : (Invocation.ofLaunch code frame none grid offset).threads = .ok threads)
    (ran : (kernel (.ofLaunch code frame none grid offset)).run (.ofLaunch code frame none grid offset) d.memory =
      ⟨.ok (), memory, reports⟩) (sound : d.events.Sound) :
    Op.Reaches (launch code frame none grid offset []) d fun event after =>
      Recorded { d with memory, reports := d.reports ++ reports } event after := by
  refine Op.reaches_get (Op.reaches_ofExcept_bind good (Op.reaches_ofExcept_bind counted ?_))
  refine Op.reaches_after (a := ()) (t := { d with memory, reports := d.reports ++ reports }) ?_ ?_
  · rw [Op.Yields, runKernel, ran]
    exact ⟨rfl, rfl⟩
  · refine (recorded_reaches (d := { d with memory, reports := d.reports ++ reports }) sound
      (List.forall_mem_nil _)).weaken fun event after marked => ?_
    obtain ⟨_, same, recorded⟩ := marked
    exact same ▸ recorded

/-- Room for a buffer is found, and the buffer holds zeros. -/
theorem allocate_reaches {size : Nat} (room : size ≤ d.memory.available) (sound : d.events.Sound) :
    Op.Reaches (allocate [size]) d fun buffers after => buffers = [⟨d.memory.nextId, size⟩] ∧
      after.data = { d with memory := (d.memory.addBuffer size).2 }.data ∧ after.events.Sound := by
  have fits : [size].sum ≤ d.memory.available := by
    rwa [List.sum_cons, List.sum_nil, Nat.add_zero]
  have allocated : d.memory.allocate [size] = .ok ([⟨d.memory.nextId, size⟩], (d.memory.addBuffer size).2) :=
    Memory.allocate_ok_iff.2 ⟨fits, rfl⟩
  refine Op.reaches_after (a := [⟨d.memory.nextId, size⟩])
    (t := { d with memory := (d.memory.addBuffer size).2 }) ?_ ?_
  · rw [onMemory, Op.yields_step, allocated]
    rfl
  · exact Op.reaches_modify_bind (Op.reaches_emit_bind (Op.reaches_pure ⟨rfl, rfl, sound⟩))

end Offload.Device
