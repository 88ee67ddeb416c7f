import Offload.Proofs.AtomicsSlot
import Offload.Proofs.Encoding
import Offload.Proofs.Fitting
import Offload.Proofs.LivePasses
import Offload.Proofs.Refusals

/-! Which bytes a transfer moves. A transfer covers a range of its host object, and the start of the
buffer of the object, as long as the range. It is checked as a whole before a byte is moved: a range that
is longer than the buffer moves nothing. What is measured and recorded afterwards touches neither objects
nor buffers, so that the bytes have been moved even where that fails. -/
namespace Offload

namespace Transfer

/-- Where the covered bytes of the host object start. -/
def start (t : Transfer) : Nat :=
  if t.batchSize = 0 then 0 else t.offset.toNat

/-- Where they end in an object of `size` bytes. -/
def stop (t : Transfer) (size : Nat) : Nat :=
  if t.batchSize = 0 then size else min (t.offset.toNat + t.batchSize.toNat) size

/-- How many bytes are covered. -/
def count (t : Transfer) (size : Nat) : Nat :=
  t.stop size - t.start

/-- The covered bytes as a range. -/
def range (t : Transfer) (size : Nat) : HostRange :=
  ⟨t.start, t.count size⟩

/-- The batch starts behind the end of the object. -/
def PastEnd (t : Transfer) (size : Nat) : Prop :=
  t.batchSize ≠ 0 ∧ size < t.offset.toNat

variable {t : Transfer} {size : Nat}

private theorem range_pastEnd (past : t.PastEnd size) :
    Machine.transferRange t size = .error (.malformed (.pastEnd t.offset.toNat t.object.toNat size)) := by
  rw [Machine.transferRange, if_neg past.1, if_pos past.2]

private theorem range_inside (inside : ¬ t.PastEnd size) :
    Machine.transferRange t size = .ok (t.range size) := by
  by_cases whole : t.batchSize = 0
  · simp [Machine.transferRange, whole, range, start, count, stop, HostRange.full]
  · have within : ¬ size < t.offset.toNat := fun past => inside ⟨whole, past⟩
    simp [Machine.transferRange, whole, within, range, start, count, stop]

private theorem count_inside (inside : ¬ t.PastEnd size) : t.start + t.count size ≤ size := by
  unfold count start stop
  by_cases whole : t.batchSize = 0
  · simp [whole]
  · have within : ¬ size < t.offset.toNat := fun past => inside ⟨whole, past⟩
    simp only [whole, if_false]
    omega

/-- The operands of a decoded transfer add up without a carry. -/
theorem sum_exact {kind : TransferKind} (encodable : (Instruction.transfer kind t).Encodable) :
    (t.offset + t.batchSize).toNat = t.offset.toNat + t.batchSize.toNat := by
  obtain ⟨_, _, placed, sized⟩ := encodable
  unfold SizeEncodable at placed sized
  rw [UInt64.toNat_add, Nat.mod_eq_of_lt (by omega)]

end Transfer

namespace TransferKind

/-- The transfer goes to the device. -/
def Inward : TransferKind → Prop
  | inOnce | inAlways => True
  | outAlways | outBlocking => False

end TransferKind

namespace Device

variable {d d' : Device} {object : HostObject} {buffer : DeviceBuffer} {held data : Bytes} {range : HostRange}
  {wait : List EventId}

/-- The buffers are the same. -/
def SameMemory (before after : Device) : Prop :=
  after.memory = before.memory

instance : Op.Transition SameMemory where
  refl _ := rfl
  trans first second := Eq.trans second first

private theorem sameMemory_of_still {α : Type} {op : DeviceOp α} (still : Op.Moves op Still) : Op.Moves op SameMemory :=
  fun d => view_of_data (fun d => d.memory) (fun _ => rfl) (still d)

/-- What a copy leaves behind is recorded, counted and logged. -/
theorem still_recordCopy {α : Type} (kind : EventKind) (change : DeviceCounters → DeviceCounters) (log : LogEvent)
    (make : EventId → α) : Op.Moves (do
      let event ← recordEvent kind wait
      count change
      Op.emit log
      pure (make event) : DeviceOp α) Still :=
  Op.moves_bind (still_onEvents _) fun _ => Op.moves_bind (still_count _) fun _ =>
    Op.moves_bind (Op.moves_emit _) fun _ => Op.moves_pure _

/-- A copy to the device that does not fit changes nothing. -/
theorem streamIn_short (read : object.readRange range.offset range.size = .ok data)
    (holds : d.memory.contents buffer.id = .ok held) (short : held.length < data.length) :
    (streamIn object buffer range wait d).result = .error (.outOfBounds 0 data.length held.length) ∧
      (streamIn object buffer range wait d).state = d := by
  have failed : writeBuffer buffer.id data d = ⟨.error (.outOfBounds 0 data.length held.length), d, []⟩ := by
    rw [writeBuffer, onMemory_run, Memory.write_outOfBounds holds short]
    rfl
  unfold streamIn
  rw [read, Op.ofExcept, Op.pure_bind, Op.bind_error failed]
  exact ⟨rfl, rfl⟩

/-- A copy to the device that fits is a write of the buffer. -/
theorem streamIn_fits (read : object.readRange range.offset range.size = .ok data)
    (holds : d.memory.contents buffer.id = .ok held) (fits : data.length ≤ held.length) :
    d.memory.write buffer.id data = .ok (streamIn object buffer range wait d).state.memory := by
  obtain ⟨memory, written, _⟩ := Memory.write_contents holds fits
  have ran := yields_writeBuffer.2 ⟨memory, written, rfl⟩
  unfold streamIn
  rw [read, Op.ofExcept, Op.pure_bind, (Op.bind_of_yields ran).2, written]
  exact congrArg Except.ok (sameMemory_of_still (still_recordCopy _ _ _ _) { d with memory }).symm

/-- The object and the buffers are the same. -/
def SameCopy (before after : HostObject × Device) : Prop :=
  after.1 = before.1 ∧ SameMemory before.2 after.2

instance : Op.Transition SameCopy where
  refl _ := ⟨rfl, rfl⟩
  trans first second := ⟨second.1.trans first.1, second.2.trans first.2⟩

private theorem sameCopy_onDevice {α : Type} {op : DeviceOp α} (still : Op.Moves op Still) :
    Op.Moves (onDevice op) SameCopy :=
  Op.moves_onPart (sameMemory_of_still still) fun _ _ same => ⟨rfl, same⟩

/-- A copy to the host that does not fit changes nothing. -/
theorem streamOut_short (holds : d.memory.contents buffer.id = .ok held) (short : held.length < range.size) :
    streamOut buffer range wait (object, d) =
      ⟨.error (.outOfBounds 0 range.size held.length), (object, d), []⟩ := by
  unfold streamOut
  rw [Op.get_bind, Memory.read_outOfBounds holds short]
  rfl

/-- A copy to the host that fits changes the object alone. -/
theorem streamOut_fits {object' : HostObject} (holds : d.memory.contents buffer.id = .ok held)
    (fits : range.size ≤ held.length)
    (written : object.writeRange range.offset (held.take range.size) = .ok object') :
    SameCopy (object', d) (streamOut buffer range wait (object, d)).state := by
  have ran : Op.Yields (Op.step fun s => (s.1.writeRange range.offset (held.take range.size)).map fun object =>
      ((), (object, s.2)) : CopyOut Unit) (object, d) () (object', d) := by
    rw [Op.yields_step]
    dsimp only
    rw [written]
    rfl
  unfold streamOut
  rw [Op.get_bind, Memory.read_contents holds fits, Op.ofExcept, Op.pure_bind, (Op.bind_of_yields ran).2]
  exact sameCopy_onDevice (still_recordCopy _ _ _ _) (object', d)

/-- A copy to the host, whether it is waited for or not. -/
def copyBack (blocking : Bool) (buffer : DeviceBuffer) (range : HostRange) (wait : List EventId) : CopyOut EventId :=
  if blocking then streamOutBlocking buffer range wait else streamOut buffer range wait

private theorem copyBack_short (blocking : Bool) (holds : d.memory.contents buffer.id = .ok held)
    (short : held.length < range.size) : copyBack blocking buffer range wait (object, d) =
      ⟨.error (.outOfBounds 0 range.size held.length), (object, d), []⟩ := by
  have failed : streamOut buffer range wait (object, d) = _ := streamOut_short holds short
  cases blocking with
  | false => exact failed
  | true =>
    show streamOutBlocking buffer range wait (object, d) = _
    unfold streamOutBlocking
    rw [Op.bind_error failed]

private theorem copyBack_fits (blocking : Bool) {object' : HostObject} (holds : d.memory.contents buffer.id = .ok held)
    (fits : range.size ≤ held.length)
    (written : object.writeRange range.offset (held.take range.size) = .ok object') :
    SameCopy (object', d) (copyBack blocking buffer range wait (object, d)).state := by
  have copied : SameCopy _ (streamOut buffer range wait (object, d)).state := streamOut_fits holds fits written
  cases blocking with
  | false => exact copied
  | true =>
    refine Op.Transition.trans copied (Op.related_rest (fun event => ?_) (object, d))
    exact Op.moves_bind (sameCopy_onDevice (still_waitEvents _)) fun _ => Op.moves_pure _

private theorem copyBack_reaches (blocking : Bool) {object' : HostObject}
    (holds : d.memory.contents buffer.id = .ok held)
    (fits : range.size ≤ held.length)
    (written : object.writeRange range.offset (held.take range.size) = .ok object')
    (sound : d.events.Sound) (known : ∀ w ∈ wait, d.events.Knows w) :
    Op.Reaches (copyBack blocking buffer range wait) (object, d) fun event after =>
      after.1 = object' ∧ Recorded d event after.2 :=
  Op.reaches_ite (fun _ => streamOutBlocking_reaches range holds fits written sound known)
    fun _ => streamOut_reaches range holds fits written sound known

end Device

namespace Session

variable {s u v : Session}

/-- The buffers, the context and the buffers of the objects are the same. -/
structure SameBytes (before after : Session) : Prop where
  memory : after.device.memory = before.device.memory
  context : after.context = before.context
  bound : ∀ object, Machine.bufferOf after object = Machine.bufferOf before object

instance : Op.Transition SameBytes where
  refl _ := ⟨rfl, rfl, fun _ => rfl⟩
  trans first second :=
    ⟨second.memory.trans first.memory, second.context.trans first.context,
      fun object => (second.bound object).trans (first.bound object)⟩

private theorem sameBytes_of_quiet {α : Type} {op : MachineOp α} (quiet : Op.Moves op Quiet) :
    Op.Moves op SameBytes := by
  intro s
  have same := quiet s
  exact ⟨same.view (fun s => s.device.memory) fun _ => rfl, same.view (fun s => s.context) fun _ => rfl,
    fun object => same.view (fun s => Machine.bufferOf s object) fun _ => rfl⟩

private theorem sameBytes_setContent (object : Nat) :
    Op.Moves (modifyBinding object fun b => b.setContent true) SameBytes :=
  Op.moves_modify fun _ => ⟨rfl, rfl, fun _ => Bindings.buffer?_modify_same fun _ => rfl⟩

private theorem sameBytes_resetList (list : Option UInt32) : Op.Moves (Machine.resetList list) SameBytes := by
  refine sameBytes_of_quiet (Machine.quiet_setLists (fun s => s.machine.lists.reset (list.map UInt32.toNat))
    fun s lists changed => ?_)
  obtain ⟨_, rfl⟩ | ⟨index, events, _, _, rfl⟩ := EventLists.reset_ok_iff.1 changed
  · rfl
  · exact Machine.resetAll_set _ _ _

/-- A buffer holds `content` and an object `host`, as many bytes as before. The other buffers, the other
objects, the types of the objects, the budget, and which buffer an object is bound to are as before. -/
structure Carried (s : Session) (index : Nat) (entry : ObjectEntry) (id : BufferId) (held content host : Bytes)
    (after : Session) : Prop where
  buffer : after.device.memory.contents id = .ok content
  bufferSize : content.length = held.length
  buffers : ∀ other, other ≠ id → after.device.memory.contents other = s.device.memory.contents other
  object : (entry.object.withBytes host).bytes = host
  objectSize : host.length = entry.object.byteSize
  element : (entry.object.withBytes host).element? = entry.object.element?
  context : after.context = s.context.setObject index (entry.object.withBytes host)
  objects : ∀ other, other ≠ index → after.context.objects[other]? = s.context.objects[other]?
  bound : ∀ object, Machine.bufferOf after object = Machine.bufferOf s object

variable {index : Nat} {entry : ObjectEntry} {id : BufferId} {held content host data : Bytes}

private theorem Carried.later (carried : s.Carried index entry id held content host u) (same : SameBytes u v) :
    s.Carried index entry id held content host v where
  buffer := same.memory ▸ carried.buffer
  bufferSize := carried.bufferSize
  buffers other different := same.memory ▸ carried.buffers other different
  object := carried.object
  objectSize := carried.objectSize
  element := carried.element
  context := same.context.trans carried.context
  objects other different := same.context ▸ carried.objects other different
  bound object := (same.bound object).trans (carried.bound object)

/-- The buffer is written, and the objects are left alone. -/
theorem carried_inward (known : s.context.objects[index]? = some entry)
    (holds : s.device.memory.contents id = .ok held) (fits : data.length ≤ held.length) {device : Device}
    (written : s.device.memory.write id data = .ok device.memory) :
    s.Carried index entry id held (data ++ held.drop data.length) entry.object.bytes { s with device } where
  buffer := by
    obtain ⟨memory, done, content⟩ := Memory.write_contents holds fits
    rw [written] at done
    cases done
    exact content
  bufferSize := by
    rw [List.length_append, List.length_drop]
    omega
  buffers _ different := Memory.write_other written different
  object := by rw [HostObject.withBytes_bytes]
  objectSize := rfl
  element := HostObject.element?_withBytes _ _
  context := by rw [HostObject.withBytes_bytes, Context.setObject_same known]
  objects _ _ := rfl
  bound _ := rfl

/-- The object is written, and the buffers are left alone. -/
theorem carried_outward {offset : Nat} (holds : s.device.memory.contents id = .ok held)
    (inside : offset + data.length ≤ entry.object.byteSize) {device : Device}
    (same : Device.SameMemory s.device device) :
    s.Carried index entry id held held (Bytes.overwrite entry.object.bytes offset data)
      { s with
        context := s.context.setObject index
          (entry.object.withBytes (Bytes.overwrite entry.object.bytes offset data))
        device } := by
  have size := Bytes.length_overwrite entry.object.bytes offset data inside
  exact
    { buffer := (congrArg (fun memory => memory.contents id) same).trans holds
      bufferSize := rfl
      buffers := fun other _ => congrArg (fun memory => memory.contents other) same
      object := HostObject.bytes_withBytes size
      objectSize := size
      element := HostObject.element?_withBytes _ _
      context := rfl
      objects := fun _ different => Context.setObject_other different
      bound := fun _ => rfl }

end Session

namespace Machine
open Session (SameBytes)

variable {s : Session} {kind : TransferKind} {t : Transfer} {entry : ObjectEntry} {buffer : DeviceBuffer}
  {held content host : Bytes} {list : Option UInt32} {α β : Type}

private theorem waitList_unlisted (unlisted : ¬ Listed s list) : ∃ index, list = some index ∧
    (waitList list s).result = .error (.malformed (.listOutOfRange index.toNat s.machine.lists.size)) ∧
      (waitList list s).state = s := by
  simp only [Listed, Inside, Classical.not_imp, not_forall, Nat.not_lt] at unlisted
  obtain ⟨tracked, index, rfl, outside⟩ := unlisted
  refine ⟨index, rfl, ?_⟩
  unfold waitList
  rw [Op.get_bind]
  simp only [EventLists.waitList, Option.map_some, tracked, if_true, EventLists.get_outside outside]
  exact ⟨rfl, rfl⟩

private theorem waitList_listed (listed : Listed s list) : ∃ wait, Op.Yields (waitList list) s wait s ∧
    (s.machine.Underway s.device → ∀ w ∈ wait, s.device.events.Knows w) := by
  have look {wait : List EventId} (found : s.machine.lists.waitList (list.map UInt32.toNat)
      s.machine.config.useDependencies = .ok wait) : Op.Yields (waitList list) s wait s := by
    simp only [waitList, Op.yields_bind, Op.yields_get, Op.yields_ofExcept]
    exact ⟨s, s, ⟨rfl, rfl⟩, found, rfl⟩
  cases list with
  | none => exact ⟨[], look rfl, fun _ => List.forall_mem_nil _⟩
  | some index =>
    rcases tracked : s.machine.config.useDependencies with _ | _
    · exact ⟨[], look (by rw [tracked]; rfl), fun _ => List.forall_mem_nil _⟩
    have inside : index.toNat < s.machine.lists.lists.length := listed tracked index rfl
    refine ⟨s.machine.lists.lists[index.toNat], look ?_, fun underway => underway.lists _ (List.getElem_mem inside)⟩
    simp only [EventLists.waitList, Option.map_some, tracked, if_true]
    exact EventLists.get_ok_iff.2 (List.getElem?_eq_getElem inside)

theorem resetList_inside (inside : Inside s.machine.lists.size list) :
    ∃ lists, Op.Yields (resetList list) s () { s with machine.lists := lists } := by
  cases list with
  | none => exact ⟨s.machine.lists, Op.yields_step.2 rfl⟩
  | some index =>
    have found := EventLists.get_ok_iff.2 (List.getElem?_eq_getElem (inside index rfl))
    refine ⟨{ s.machine.lists with lists := s.machine.lists.lists.set index.toNat [] }, Op.yields_step.2 ?_⟩
    simp only [Option.map_some, EventLists.reset, found, bind, Except.bind]
    rfl

theorem onDevice_state (op : DeviceOp α) (s : Session) :
    (Session.onDevice op s).state = { s with device := (op s.device).state } := by
  rw [← Op.mapError_state MachineError.ofDevice]
  rfl

theorem onObject_state (index : Nat) (object : HostObject) (op : Device.CopyOut α) (s : Session) :
    (onObject index object op s).state =
      { s with
        context := s.context.setObject index (op (object, s.device)).state.1
        device := (op (object, s.device)).state.2 } := by
  rw [← Op.mapError_state MachineError.ofDevice]
  rfl

private theorem onDevice_refused {op : DeviceOp α} {e : DeviceError}
    (refused : (op s.device).result = .error e ∧ (op s.device).state = s.device) :
    (Session.onDevice op s).result = .error (.ofDevice e) ∧ (Session.onDevice op s).state = s := by
  unfold Session.onDevice Op.onPart Op.mapError
  rcases ran : op s.device with ⟨result, device, log⟩
  rw [ran] at refused
  obtain ⟨rfl, rfl⟩ := refused
  exact ⟨rfl, rfl⟩

/-- How a copy ends that is not left out. It is refused and nothing is changed, or the bytes are carried
over, whatever becomes of the rest of the transfer. In a pass, if the machine has the event list, the
rest goes well. -/
structure CopiesExactly (t : Transfer) (entry : ObjectEntry) (buffer : DeviceBuffer) (held content host : Bytes)
    (s : Session) (outcome : Outcome MachineError Session α) : Prop where
  pastEnd : t.PastEnd entry.object.byteSize → outcome.state = s ∧
    outcome.result = .error (.malformed (.pastEnd t.offset.toNat t.object.toNat entry.object.byteSize))
  unlisted : ¬ t.PastEnd entry.object.byteSize → ¬ Listed s t.list → outcome.state = s ∧
    ∃ index, t.list = some index ∧
      outcome.result = .error (.malformed (.listOutOfRange index.toNat s.machine.lists.size))
  short : ¬ t.PastEnd entry.object.byteSize → Listed s t.list → held.length < t.count entry.object.byteSize →
    outcome.state = s ∧
      outcome.result = .error (.device (.outOfBounds 0 (t.count entry.object.byteSize) held.length))
  carried : ¬ t.PastEnd entry.object.byteSize → Listed s t.list → t.count entry.object.byteSize ≤ held.length →
    s.Carried t.object.toNat entry buffer.id held content host outcome.state
  succeeds : ¬ t.PastEnd entry.object.byteSize → t.count entry.object.byteSize ≤ held.length →
    Inside s.machine.lists.size t.list → ∀ last, MidPass s last → ∃ a, outcome.result = .ok a

private theorem CopiesExactly.map {op : MachineOp α} (exact : CopiesExactly t entry buffer held content host s (op s))
    (f : α → β) : CopiesExactly t entry buffer held content host s ((f <$> op) s) := by
  have same := Op.map_state f op s
  have fails (e : MachineError) (failed : (op s).result = .error e) : ((f <$> op) s).result = .error e :=
    (Op.bind_of_failed failed).1
  exact
    { pastEnd := fun past => ⟨same.trans (exact.pastEnd past).1, fails _ (exact.pastEnd past).2⟩
      unlisted := fun inside unlisted => by
        obtain ⟨kept, index, named, failed⟩ := exact.unlisted inside unlisted
        exact ⟨same.trans kept, index, named, fails _ failed⟩
      short := fun inside listed short =>
        ⟨same.trans (exact.short inside listed short).1, fails _ (exact.short inside listed short).2⟩
      carried := fun inside listed fits => same ▸ exact.carried inside listed fits
      succeeds := fun inside fits declared last passing => by
        obtain ⟨a, ok⟩ := exact.succeeds inside fits declared last passing
        exact ⟨f a, (Op.bind_of_yields ⟨ok, rfl⟩).1⟩ }

/-- A copy finds its range and the events that it waits for before it asks anything of the device. -/
theorem exactly_ranged {next : HostRange → List EventId → MachineOp α}
    (short : ¬ t.PastEnd entry.object.byteSize → held.length < t.count entry.object.byteSize → ∀ wait,
      (next (t.range entry.object.byteSize) wait s).result =
          .error (.device (.outOfBounds 0 (t.count entry.object.byteSize) held.length)) ∧
        (next (t.range entry.object.byteSize) wait s).state = s)
    (fits : ¬ t.PastEnd entry.object.byteSize → t.count entry.object.byteSize ≤ held.length → ∀ wait,
      s.Carried t.object.toNat entry buffer.id held content host
        (next (t.range entry.object.byteSize) wait s).state)
    (goes : ¬ t.PastEnd entry.object.byteSize → t.count entry.object.byteSize ≤ held.length →
      Inside s.machine.lists.size t.list → s.device.events.Sound → ∀ wait, (∀ w ∈ wait, s.device.events.Knows w) →
        Op.Goes (next (t.range entry.object.byteSize) wait) s) :
    CopiesExactly t entry buffer held content host s ((do
      let range ← Op.ofExcept (transferRange t entry.object.byteSize)
      let wait ← waitList t.list
      next range wait) s) := by
  by_cases past : t.PastEnd entry.object.byteSize
  · rw [Transfer.range_pastEnd past]
    exact
      { pastEnd := fun _ => ⟨rfl, rfl⟩
        unlisted := fun inside => absurd past inside
        short := fun inside => absurd past inside
        carried := fun inside => absurd past inside
        succeeds := fun inside => absurd past inside }
  rw [Transfer.range_inside past, Op.ofExcept, Op.pure_bind]
  by_cases listed : Listed s t.list
  · obtain ⟨wait, ran, known⟩ := waitList_listed listed
    exact
      { pastEnd := fun behind => absurd behind past
        unlisted := fun _ unlisted => absurd listed unlisted
        short := fun _ _ long => ⟨(Op.bind_of_yields ran).2.trans (short past long wait).2,
          (Op.bind_of_yields ran).1.trans (short past long wait).1⟩
        carried := fun _ _ room => by
          rw [(Op.bind_of_yields ran).2]
          exact fits past room wait
        succeeds := fun _ room declared last passing => by
          obtain ⟨a, after, ok, _⟩ := goes past room declared passing.sound wait (known passing.underway)
          exact ⟨a, (Op.bind_of_yields ran).1.trans ok.1⟩ }
  · obtain ⟨index, named, failed, same⟩ := waitList_unlisted listed
    exact
      { pastEnd := fun behind => absurd behind past
        unlisted := fun _ _ =>
          ⟨(Op.bind_of_failed failed).2.trans same, index, named, (Op.bind_of_failed failed).1⟩
        short := fun _ known => absurd known listed
        carried := fun _ known => absurd known listed
        succeeds := fun _ _ declared => absurd (fun _ => declared) listed }

/-- What is left of a transfer after its copy changes no bytes. -/
theorem sameBytes_rest (list : Option UInt32) (events : List EventId) (timer : TimerKind) (metric : MetricKind)
    (object bytes : Nat) : Op.Moves (do
      resetList list
      profileTransfer events timer metric object bytes) SameBytes :=
  Op.moves_bind (Session.sameBytes_resetList _) fun _ =>
    Session.sameBytes_of_quiet (moves_profileTransfer _ _ _ _ _)

/-- It goes well if the machine has the list, and the events of the copy are good. -/
theorem rest_goes {events : List EventId} {timer : TimerKind} {metric : MetricKind} {object bytes : Nat}
    (declared : Inside s.machine.lists.size list) (sound : s.device.events.Sound)
    (known : ∀ e ∈ events, s.device.events.Knows e) : Op.Goes (do
      resetList list
      profileTransfer events timer metric object bytes) s := by
  obtain ⟨lists, emptied⟩ := resetList_inside declared
  exact Op.reaches_after emptied (profileTransfer_goes sound known)

/-- A copy to the device puts the covered bytes at the start of the buffer. -/
theorem deliver_exactly (known : s.context.objects[t.object.toNat]? = some entry)
    (holds : s.device.memory.contents buffer.id = .ok held) :
    CopiesExactly t entry buffer held
      (Bytes.slice entry.object.bytes t.start (t.count entry.object.byteSize) ++
        held.drop (t.count entry.object.byteSize)) entry.object.bytes s (deliver t entry buffer s) := by
  have read (inside : ¬ t.PastEnd entry.object.byteSize) :
      entry.object.readRange (t.range entry.object.byteSize).offset (t.range entry.object.byteSize).size =
        .ok (Bytes.slice entry.object.bytes t.start (t.count entry.object.byteSize)) :=
    HostObject.readRange_inside (Transfer.count_inside inside)
  have length (inside : ¬ t.PastEnd entry.object.byteSize) :
      (Bytes.slice entry.object.bytes t.start (t.count entry.object.byteSize)).length =
        t.count entry.object.byteSize := Bytes.length_slice _ _ _ (Transfer.count_inside inside)
  refine exactly_ranged (fun inside short wait => ?_) (fun inside fits wait => ?_)
    fun inside fits declared sound wait awaited => ?_
  · have long : held.length < _ := Nat.lt_of_lt_of_eq short (length inside).symm
    have refused : (Device.streamIn entry.object buffer _ wait s.device).result = _ ∧ _ :=
      Device.streamIn_short (read inside) holds long
    rw [length inside] at refused
    obtain ⟨failed, same⟩ := onDevice_refused refused
    obtain ⟨result, state⟩ := Op.bind_of_failed failed
    exact ⟨result, state.trans same⟩
  · have room := Nat.le_trans (Nat.le_of_eq (length inside)) fits
    have written : _ = Except.ok (Device.streamIn entry.object buffer _ wait s.device).state.memory :=
      Device.streamIn_fits (read inside) holds room
    have carried := Session.carried_inward known holds room written
    rw [length inside] at carried
    rw [← onDevice_state] at carried
    refine carried.later ?_
    refine Op.related_rest (fun events => Op.moves_ite ?_ (sameBytes_rest _ _ _ _ _ _)) s
    exact Op.moves_bind (Session.sameBytes_setContent _) fun _ => sameBytes_rest _ _ _ _ _ _
  · have room := Nat.le_trans (Nat.le_of_eq (length inside)) fits
    obtain ⟨_, device, streamed, memory, event, rfl, _, recorded⟩ :=
      Device.streamIn_reaches _ (read inside) holds room sound awaited
    have good : ∀ e ∈ [event], device.events.Knows e := List.forall_mem_singleton.2 recorded.known
    refine Op.reaches_after (yields_onDevice.2 ⟨device, streamed, rfl⟩) (Op.reaches_ite (fun _ => ?_) fun _ => ?_)
    · exact Op.reaches_modify_bind (rest_goes declared recorded.sound good)
    · exact rest_goes declared recorded.sound good

/-- A copy of the buffer to its host object. -/
def fetch (t : Transfer) (blocking : Bool) (entry : ObjectEntry) (buffer : DeviceBuffer) :
    MachineOp (Option EventId) := do
  let range ← Op.ofExcept (transferRange t entry.object.byteSize)
  let wait ← waitList t.list
  let event ← onObject t.object.toNat entry.object (Device.copyBack blocking buffer range wait)
  resetList t.list
  profileTransfer [event] .copyOut .copyOutBytes t.object.toNat range.size
  pure (some event)

theorem transferOut_bound (found : s.context.object t.object.toNat = .ok entry)
    (ordinary : ¬ entry.object.isKernelContext) (bound : bufferOf s t.object.toNat = some buffer)
    (blocking : Bool) : transferOut t blocking s = fetch t blocking entry buffer s := by
  unfold transferOut
  rw [Op.get_bind, found, Op.ofExcept, Op.pure_bind, if_neg ordinary, boundBuffer_ok_iff.2 bound, Op.ofExcept,
    Op.pure_bind]
  rfl

/-- A copy to the host puts the start of the buffer over the covered bytes. -/
theorem fetch_exactly (known : s.context.objects[t.object.toNat]? = some entry)
    (holds : s.device.memory.contents buffer.id = .ok held) (blocking : Bool) :
    CopiesExactly t entry buffer held held
      (Bytes.overwrite entry.object.bytes t.start (held.take (t.count entry.object.byteSize))) s
      (fetch t blocking entry buffer s) := by
  have within (inside : ¬ t.PastEnd entry.object.byteSize) :
      t.start + (held.take (t.count entry.object.byteSize)).length ≤ entry.object.byteSize :=
    Nat.le_trans (Nat.add_le_add_left (List.length_take_le _ _) _) (Transfer.count_inside inside)
  have written (inside : ¬ t.PastEnd entry.object.byteSize) :
      entry.object.writeRange (t.range entry.object.byteSize).offset
          (held.take (t.range entry.object.byteSize).size) = .ok _ :=
    HostObject.writeRange_inside (within inside)
  refine exactly_ranged (fun inside short wait => ?_) (fun inside fits wait => ?_)
    fun inside fits declared sound wait awaited => ?_
  · have refused : onObject t.object.toNat entry.object
        (Device.copyBack blocking buffer (t.range entry.object.byteSize) wait) s =
          ⟨.error (.device (.outOfBounds 0 (t.count entry.object.byteSize) held.length)), s, []⟩ := by
      unfold onObject Op.onPart Op.mapError
      rw [Device.copyBack_short blocking holds short]
      dsimp only
      rw [Context.setObject_same known]
      rfl
    rw [Op.bind_error refused]
    exact ⟨rfl, rfl⟩
  · have copied : Device.SameCopy _ (Device.copyBack blocking buffer _ wait (entry.object, s.device)).state :=
      Device.copyBack_fits blocking holds fits (written inside)
    have stored : (Device.copyBack blocking buffer _ wait (entry.object, s.device)).state.1 =
        entry.object.withBytes (Bytes.overwrite entry.object.bytes t.start
          (held.take (t.count entry.object.byteSize))) := copied.1
    have carried : s.Carried t.object.toNat entry _ held held _ _ :=
      Session.carried_outward holds (within inside) copied.2
    rw [← stored, ← onObject_state] at carried
    refine carried.later (Op.related_rest (fun event => ?_) s)
    exact Op.moves_bind (Session.sameBytes_resetList _) fun _ => Op.moves_bind
      (Session.sameBytes_of_quiet (moves_profileTransfer _ _ _ _ _)) fun _ => Op.moves_pure _
  · obtain ⟨event, ⟨object, device⟩, streamed, _, recorded⟩ :=
      Device.copyBack_reaches blocking holds fits (written inside) sound awaited
    refine Op.reaches_after (Op.yields_onPart.2 ⟨_, Op.yields_mapError.2 streamed, rfl⟩) ?_
    obtain ⟨lists, emptied⟩ := resetList_inside
      (s := { s with context := s.context.setObject t.object.toNat object, device }) declared
    refine Op.reaches_after emptied
      (Op.reaches_bind (P := fun _ _ => True) ?_ fun _ _ _ _ => Op.reaches_pure trivial)
    exact profileTransfer_goes recorded.sound (List.forall_mem_singleton.2 recorded.known)

/-! ### The four kinds of transfers -/

/-- A transfer to the device that is not left out is a copy to the device. -/
theorem runInstruction_inward (known : s.context.objects[t.object.toNat]? = some entry)
    (ordinary : ¬ entry.object.isKernelContext) (bound : bufferOf s t.object.toNat = some buffer)
    (inward : kind.Inward) (due : ¬ (kind = .inOnce ∧ LeavesOut s t)) (last : Option EventId) (offset : Nat) :
    runInstruction last offset (.transfer kind t) s = ((fun _ => last) <$> deliver t entry buffer) s := by
  have asked := transferIn_bound (Context.object_ok_iff.2 known) ordinary bound
  cases kind with
  | inOnce =>
    refine Op.bind_congr_at ((asked true).trans (if_neg ?_)) fun _ _ _ => rfl
    exact fun leftOut => due ⟨rfl, leftOut.2⟩
  | inAlways =>
    refine Op.bind_congr_at ((asked false).trans (if_neg ?_)) fun _ _ _ => rfl
    exact fun leftOut => nomatch leftOut.1
  | outAlways => exact inward.elim
  | outBlocking => exact inward.elim

/-- A transfer to the host is a copy to the host, whatever its event becomes. -/
theorem runInstruction_outward (known : s.context.objects[t.object.toNat]? = some entry)
    (ordinary : ¬ entry.object.isKernelContext) (bound : bufferOf s t.object.toNat = some buffer)
    (outward : ¬ kind.Inward) (last : Option EventId) (offset : Nat) :
    ∃ blocking, ∃ f : Option EventId → Option EventId,
      runInstruction last offset (.transfer kind t) s = (f <$> fetch t blocking entry buffer) s := by
  have asked := transferOut_bound (Context.object_ok_iff.2 known) ordinary bound
  cases kind with
  | inOnce => exact absurd trivial outward
  | inAlways => exact absurd trivial outward
  | outAlways =>
    have same : (id <$> fetch t false entry buffer) = fetch t false entry buffer := Op.bind_pure _
    exact ⟨false, id, (asked false).trans (congrFun same s).symm⟩
  | outBlocking => exact ⟨true, fun _ => last, Op.bind_congr_at (asked true) fun _ _ _ => rfl⟩

/-- A copy is refused and changes nothing, or it carries its bytes over. -/
theorem CopiesExactly.cases {outcome : Outcome MachineError Session α}
    (exact : CopiesExactly t entry buffer held content host s outcome) :
    (∃ e, outcome.result = .error e) ∧ outcome.state = s ∨
      ¬ t.PastEnd entry.object.byteSize ∧ t.count entry.object.byteSize ≤ held.length ∧
        s.Carried t.object.toNat entry buffer.id held content host outcome.state := by
  by_cases past : t.PastEnd entry.object.byteSize
  · exact .inl ⟨⟨_, (exact.pastEnd past).2⟩, (exact.pastEnd past).1⟩
  by_cases listed : Listed s t.list
  · by_cases fits : t.count entry.object.byteSize ≤ held.length
    · exact .inr ⟨past, fits, exact.carried past listed fits⟩
    · obtain ⟨same, failed⟩ := exact.short past listed (Nat.lt_of_not_le fits)
      exact .inl ⟨⟨_, failed⟩, same⟩
  · obtain ⟨same, index, _, failed⟩ := exact.unlisted past listed
    exact .inl ⟨⟨_, failed⟩, same⟩

/-- A copy to the host of what the object holds already changes no object. -/
theorem CopiesExactly.context_same {outcome : Outcome MachineError Session α}
    (known : s.context.objects[t.object.toNat]? = some entry)
    (exact : CopiesExactly t entry buffer held content entry.object.bytes s outcome) :
    outcome.state.context = s.context := by
  rcases exact.cases with ⟨_, same⟩ | ⟨_, _, carried⟩
  · rw [same]
  · rw [carried.context, HostObject.withBytes_bytes, Context.setObject_same known]

/-- Behind a copy to the device, the copy of the same range to the host changes no object. -/
theorem carried_back {u : Session} {back : TransferKind} (known : s.context.objects[t.object.toNat]? = some entry)
    (ordinary : ¬ entry.object.isKernelContext) (bound : bufferOf s t.object.toNat = some buffer)
    (inside : ¬ t.PastEnd entry.object.byteSize)
    (carried : s.Carried t.object.toNat entry buffer.id held
      (Bytes.slice entry.object.bytes t.start (t.count entry.object.byteSize) ++
        held.drop (t.count entry.object.byteSize)) entry.object.bytes u)
    (outward : ¬ back.Inward) (last : Option EventId) (offset : Nat) :
    (runInstruction last offset (.transfer back t) u).state.context = s.context := by
  have context : u.context = s.context := by
    rw [carried.context, HostObject.withBytes_bytes, Context.setObject_same known]
  have known' : u.context.objects[t.object.toNat]? = some entry := context ▸ known
  obtain ⟨blocking, f, same⟩ :=
    runInstruction_outward known' ordinary ((carried.bound _).trans bound) outward last offset
  have copied := fetch_exactly known' carried.buffer blocking
  have covered := Transfer.count_inside inside
  rw [List.take_left' (Bytes.length_slice _ _ _ covered), Bytes.overwrite_slice _ _ _ covered] at copied
  rw [same, Op.map_state, copied.context_same known', context]

/-- A transfer moves the bytes that it names, and no others. It covers a range of the object and as many
bytes from the start of the buffer. If the range begins behind the object, if the machine is to look for
events in a list that it does not have, or if the buffer is too short, nothing is changed. Otherwise a
transfer to the device, unless it is left out, puts the bytes of the range at the start of the buffer,
and one to the host puts the start of the buffer over the range. To copy a range to the device and back
leaves the host as it was. The ends of the range of an encoded transfer add up without a carry. -/
theorem transfer_exact (known : s.context.objects[t.object.toNat]? = some entry)
    (ordinary : entry.object ≠ .kernelContext) (bound : bufferOf s t.object.toNat = some buffer)
    (holds : s.device.memory.contents buffer.id = .ok held) (last : Option EventId) (offset : Nat) :
    (kind = .inOnce ∧ LeavesOut s t → SameBytes s (runInstruction last offset (.transfer kind t) s).state) ∧
    (kind.Inward → ¬ (kind = .inOnce ∧ LeavesOut s t) →
      CopiesExactly t entry buffer held
        (Bytes.slice entry.object.bytes t.start (t.count entry.object.byteSize) ++
          held.drop (t.count entry.object.byteSize))
        entry.object.bytes s (runInstruction last offset (.transfer kind t) s) ∧
      ∀ back : TransferKind, ¬ back.Inward → ∀ offset', ((do
        let event ← runInstruction last offset (.transfer kind t)
        runInstruction event offset' (.transfer back t)) s).state.context = s.context) ∧
    (¬ kind.Inward → CopiesExactly t entry buffer held held
      (Bytes.overwrite entry.object.bytes t.start (held.take (t.count entry.object.byteSize))) s
      (runInstruction last offset (.transfer kind t) s)) ∧
    ((Instruction.transfer kind t).Encodable →
      (t.offset + t.batchSize).toNat = t.offset.toNat + t.batchSize.toNat) := by
  have plain : ¬ entry.object.isKernelContext := by simpa [HostObject.isKernelContext] using ordinary
  refine ⟨?_, fun inward due => ?_, fun outward => ?_, Transfer.sum_exact⟩
  · rintro ⟨rfl, leftOut⟩
    have asked := transferIn_bound (Context.object_ok_iff.2 known) plain bound true
    rw [if_pos ⟨rfl, leftOut⟩] at asked
    rw [show runInstruction last offset (.transfer .inOnce t) s = ((fun _ => last) <$> resetList t.list) s from
      Op.bind_congr_at asked fun _ _ _ => rfl, Op.map_state]
    exact Session.sameBytes_resetList _ s
  · have copied := (deliver_exactly known holds).map fun _ => last
    rw [← runInstruction_inward known plain bound inward due last offset] at copied
    refine ⟨copied, fun back outward offset' => ?_⟩
    rcases ran : runInstruction last offset (.transfer kind t) s with ⟨e | event, u, log⟩
    · rw [Op.bind_error ran]
      have same := copied.context_same known
      rwa [ran] at same
    · rw [(Op.bind_of_yields ⟨congrArg Outcome.result ran, congrArg Outcome.state ran⟩).2]
      rcases copied.cases with ⟨⟨e, failed⟩, _⟩ | ⟨inside, _, carried⟩
      · rw [ran] at failed
        cases failed
      · rw [ran] at carried
        exact carried_back known plain bound inside carried outward event offset'
  · obtain ⟨blocking, f, same⟩ := runInstruction_outward known plain bound outward last offset
    rw [same]
    exact (fetch_exactly known holds blocking).map f

end Machine

namespace Workspace

/-- Six bytes from the fifth on. -/
def middle : Transfer :=
  { object := 0, list := none, offset := 4, batchSize := 6 }

/-- A machine in a pass that has a buffer for an array of three integers. -/
def roomForThree : Workspace :=
  let program := Assembly.bytes
    { instructions := [.context 0, .beginPass, .alloc 0 [0], .transfer .inAlways middle, .endPass] }
  let start : Workspace :=
    { context := { name := "room for three", objects := [{ object := .ofInt32s [1, 2, 3] }] }, devices := [{}] }
  let built := (start.build 0 program {}).state
  let begun := (built.onMachine 0 MachineCommand.startPass.run).state
  (begun.onMachine 0 (MachineCommand.perform false none 0).run).state

/-- The six bytes arrive where they belong, and the others of the buffer stay zero. -/
theorem roomForThree_copies : ∃ s buffer, roomForThree.session? 0 = some (0, s) ∧
    Machine.bufferOf s 0 = some buffer ∧
      (Machine.runInstruction none 35 (.transfer .inAlways middle) s).state.device.memory.contents buffer.id =
        .ok [2, 0, 0, 0, 3, 0, 0, 0, 0, 0, 0, 0] := by
  have ran : (roomForThree.session? 0).any (fun seated => seated.1 = 0 ∧
      seated.2.context.objects[0]? = some { object := .ofInt32s [1, 2, 3] } ∧
      Machine.bufferOf seated.2 0 = some ⟨1, 12⟩ ∧
      (seated.2.device.memory.contents 1).toOption = some (Bytes.zeros 12)) = true := by decide +kernel
  obtain ⟨⟨index, s⟩, present, same⟩ := (Option.any_eq_true _ _).1 ran
  obtain ⟨rfl, known, bound, found⟩ := of_decide_eq_true same
  have holds : s.device.memory.contents 1 = .ok (Bytes.zeros 12) := by
    rcases held : s.device.memory.contents 1 with e | content <;> rw [held] at found <;> cases found
    rfl
  have ordinary : HostObject.ofInt32s [1, 2, 3] ≠ .kernelContext := nofun
  have inward : TransferKind.inAlways.Inward := trivial
  have due : ¬ (TransferKind.inAlways = .inOnce ∧ Machine.LeavesOut s middle) := nofun
  have copied := ((Machine.transfer_exact known ordinary bound holds none 35).2.1 inward due).1
  have inside : ¬ middle.PastEnd 12 := fun past => absurd past.2 (by decide)
  have carried := copied.carried inside (fun _ _ named => nomatch named) (by decide)
  exact ⟨s, _, present, bound, carried.buffer⟩

end Workspace
end Offload
