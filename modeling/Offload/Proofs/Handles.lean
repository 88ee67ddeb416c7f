import Offload.Proofs.Measurements

/-! The handles that a device hands out. There are three numberings, of buffers, events and binaries, and
they only ever go up, over resets too. So every handle has a number of its own kind that no other handle
of the device ever has, whoever uses the device and however often it is reset. -/
namespace Offload

/-- What a device hands out to be named later. -/
inductive Handle where
  | buffer (value : DeviceBuffer)
  | event (id : EventId)
  | code (value : Binary)

/-- The handles are of two kinds, or have two numbers. -/
def Handle.Apart : Handle → Handle → Prop
  | buffer a, buffer b => a.id ≠ b.id
  | event a, event b => a ≠ b
  | code a, code b => a.id ≠ b.id
  | _, _ => True

namespace EventTable

variable {t t' : EventTable}

/-- Later events have later numbers, and what was forgotten stays forgotten. -/
structure Numbers (before after : EventTable) : Prop where
  next : before.nextId ≤ after.nextId
  forgotten : before.retiredFrom ≤ after.retiredFrom

instance : Op.Transition Numbers where
  refl _ := ⟨Nat.le_refl _, Nat.le_refl _⟩
  trans first second :=
    ⟨Nat.le_trans first.next second.next, Nat.le_trans first.forgotten second.forgotten⟩

private theorem numbers_of_same (next : t'.nextId = t.nextId) (forgotten : t'.retiredFrom = t.retiredFrom) :
    Numbers t t' :=
  ⟨Nat.le_of_eq next.symm, Nat.le_of_eq forgotten.symm⟩

/-- The event gets the next number. -/
theorem record_numbers {kind : EventKind} {wait : List EventId} {id : EventId}
    (ran : t.record kind wait = .ok (id, t')) : id = t.nextId ∧ t'.nextId = t.nextId + 1 ∧ Numbers t t' := by
  unfold record at ran
  rcases checked : t.checkAll wait with e | _ <;> rw [checked] at ran <;> cases ran
  exact ⟨rfl, rfl, Nat.le_succ _, Nat.le_refl _⟩

private theorem retireCovered_numbers (ran : t.retireCovered = .ok t') :
    t'.nextId = t.nextId ∧ t'.retiredFrom = t.retiredFrom := by
  unfold retireCovered at ran
  rcases latest : t.lastFull with _ | cut <;> rw [latest] at ran
  · cases ran
    exact ⟨rfl, rfl⟩
  rcases found : t.isComplete cut with e | complete <;> simp only [found, bind, Except.bind] at ran
  · cases ran
  · split at ran <;> cases ran <;> exact ⟨rfl, rfl⟩

/-- So does a marker. -/
theorem marker_numbers {wait deps : List EventId} {id : EventId}
    (ran : t.marker wait = .ok ((id, deps), t')) :
    id = t.nextId ∧ t'.nextId = t.nextId + 1 ∧ Numbers t t' := by
  simp only [marker, bind, Except.bind] at ran
  split at ran
  · cases ran
  split at ran
  · cases ran
  split at ran
  · split at ran
    · cases ran
    · next retired =>
      cases ran
      obtain ⟨next, forgotten⟩ := retireCovered_numbers retired
      exact ⟨rfl, next, Nat.le_of_lt (next ▸ Nat.lt_succ_self _), Nat.le_of_eq forgotten.symm⟩
  · cases ran
    exact ⟨rfl, rfl, Nat.le_succ _, Nat.le_refl _⟩

private theorem finishAll_numbers (t : EventTable) (ids : List EventId) :
    (ids.foldl finish t).nextId = t.nextId ∧ (ids.foldl finish t).retiredFrom = t.retiredFrom := by
  obtain ⟨records, same, _⟩ := finishAll_eq t ids
  rw [same]
  exact ⟨rfl, rfl⟩

/-- Completions give out no numbers and forget none. -/
theorem drain_numbers {id : EventId} (ran : t.drain id = .ok t') :
    t'.nextId = t.nextId ∧ t'.retiredFrom = t.retiredFrom := by
  unfold drain at ran
  rcases found : t.unfinished id with e | events <;> rw [found] at ran
  · cases ran
  obtain ⟨next, forgotten⟩ := retireCovered_numbers ran
  obtain ⟨next', forgotten'⟩ := finishAll_numbers t events
  exact ⟨next.trans next', forgotten.trans forgotten'⟩

theorem complete_numbers {id : EventId} (ran : t.complete id = .ok t') :
    t'.nextId = t.nextId ∧ t'.retiredFrom = t.retiredFrom := by
  unfold complete at ran
  rcases found : t.lookup id with e | _ <;> rw [found] at ran <;> cases ran
  exact finishAll_numbers t [id]

/-- A clear forgets every event, and its number. -/
theorem clear_numbers (sound : t.Sound) : Numbers t t.clear ∧ t.clear.retiredFrom = t.nextId :=
  ⟨⟨Nat.le_refl _, Nat.le_trans sound.retired sound.issued⟩, rfl⟩

end EventTable

namespace Device

variable {d d' d'' : Device} {hs : List Handle}

/-- The numberings go up, and the buffer for atomics changes for a new one only, or for none. -/
structure Numbers (before after : Device) : Prop where
  memory : before.memory.Grows after.memory
  events : before.events.Numbers after.events
  codes : before.nextCode ≤ after.nextCode
  epoch : before.epoch ≤ after.epoch
  slot : ∀ b, after.atomics = some b → before.atomics = some b ∨
    before.memory.nextId ≤ b.id ∧ b.id < after.memory.nextId

instance : Op.Transition Numbers where
  refl _ := ⟨Op.Transition.refl _, Op.Transition.refl _, Nat.le_refl _, Nat.le_refl _, fun _ => .inl⟩
  trans first second := by
    refine ⟨Op.Transition.trans first.memory second.memory, Op.Transition.trans first.events second.events,
      Nat.le_trans first.codes second.codes, Nat.le_trans first.epoch second.epoch, ?_⟩
    intro b remembered
    rcases second.slot b remembered with middle | ⟨later, below⟩
    · rcases first.slot b middle with before | ⟨later, below⟩
      · exact .inl before
      · exact .inr ⟨later, Nat.lt_of_lt_of_le below second.memory.nextId⟩
    · exact .inr ⟨Nat.le_trans first.memory.nextId later, below⟩

/-- The number of a handle was not given out yet. -/
def Ahead (d : Device) : Handle → Prop
  | .buffer b => d.memory.nextId ≤ b.id
  | .event id => d.events.nextId ≤ id
  | .code c => d.nextCode ≤ c.id

/-- The number of a handle was given out, for a binary in this epoch at the latest. -/
def Behind (d : Device) : Handle → Prop
  | .buffer b => b.id < d.memory.nextId
  | .event id => id < d.events.nextId
  | .code c => c.id < d.nextCode ∧ c.epoch ≤ d.epoch

/-- Handles that were given out between two moments, each once. -/
structure Between (before after : Device) (handles : List Handle) : Prop where
  ahead : ∀ h ∈ handles, before.Ahead h
  behind : ∀ h ∈ handles, after.Behind h
  apart : handles.Pairwise Handle.Apart

private theorem Numbers.ahead (numbers : Numbers d d') {h : Handle} (ahead : d'.Ahead h) : d.Ahead h := by
  cases h with
  | buffer b => exact Nat.le_trans numbers.memory.nextId ahead
  | event id => exact Nat.le_trans numbers.events.next ahead
  | code c => exact Nat.le_trans numbers.codes ahead

private theorem Numbers.behind (numbers : Numbers d d') {h : Handle} (behind : d.Behind h) : d'.Behind h := by
  cases h with
  | buffer b => exact Nat.lt_of_lt_of_le behind numbers.memory.nextId
  | event id => exact Nat.lt_of_lt_of_le behind numbers.events.next
  | code c => exact ⟨Nat.lt_of_lt_of_le behind.1 numbers.codes, Nat.le_trans behind.2 numbers.epoch⟩

theorem apart_of_behind {h h' : Handle} (behind : d.Behind h) (ahead : d.Ahead h') : h.Apart h' := by
  cases h <;> cases h' <;> try trivial
  · exact Nat.ne_of_lt (Nat.lt_of_lt_of_le behind ahead)
  · exact Nat.ne_of_lt (Nat.lt_of_lt_of_le behind ahead)
  · exact Nat.ne_of_lt (Nat.lt_of_lt_of_le behind.1 ahead)

private theorem between_nil (d d' : Device) : Between d d' [] :=
  ⟨nofun, nofun, List.Pairwise.nil⟩

private theorem between_append {hs' : List Handle} (first : Between d d' hs) (second : Between d d' hs')
    (cross : ∀ h ∈ hs, ∀ h' ∈ hs', h.Apart h') : Between d d' (hs ++ hs') :=
  ⟨List.forall_mem_append.2 ⟨first.ahead, second.ahead⟩, List.forall_mem_append.2 ⟨first.behind, second.behind⟩,
    List.pairwise_append.2 ⟨first.apart, second.apart, cross⟩⟩

private theorem Between.earlier (between : Between d' d'' hs) (numbers : Numbers d d') : Between d d'' hs :=
  ⟨fun h member => numbers.ahead (between.ahead h member), between.behind, between.apart⟩

private theorem Between.later (between : Between d d' hs) (numbers : Numbers d' d'') : Between d d'' hs :=
  ⟨between.ahead, fun h member => numbers.behind (between.behind h member), between.apart⟩

/-! ### What an operation hands out -/

section Hands

variable {α β : Type} {names : α → List Handle} {names' : β → List Handle}

/-- The operation moves the numberings up, and a success hands out the named handles. -/
def Hands (op : DeviceOp α) (names : α → List Handle) : Prop :=
  ∀ d, Numbers d (op d).state ∧ ∀ a, (op d).result = .ok a → Between d (op d).state (names a)

/-- Handles may come from the second part, behind a part that hands out nothing. -/
theorem hands_bind {first : DeviceOp α} {next : α → DeviceOp β} (head : Op.Moves first Numbers)
    (tail : ∀ a, Hands (next a) names') : Hands (first >>= next) names' := by
  intro d
  have moved := head d
  rw [Op.bind_run]
  rcases ran : first d with ⟨e | a, d', log⟩ <;> rw [ran] at moved
  · exact ⟨moved, fun _ failed => nomatch failed⟩
  · obtain ⟨numbers, between⟩ := tail a d'
    exact ⟨Op.Transition.trans moved numbers, fun b succeeded => (between b succeeded).earlier moved⟩

/-- Or they come from the first part, and the second passes them on. -/
theorem hands_then {first : DeviceOp α} {next : α → DeviceOp β} (head : Hands first names)
    (tail : ∀ a, Op.Moves (next a) Numbers)
    (same : ∀ a d b, (next a d).result = .ok b → names' b = names a) : Hands (first >>= next) names' := by
  intro d
  obtain ⟨numbers, between⟩ := head d
  rw [Op.bind_run]
  rcases ran : first d with ⟨e | a, d', log⟩ <;> rw [ran] at numbers between
  · exact ⟨numbers, fun _ failed => nomatch failed⟩
  · have moved := tail a d'
    refine ⟨Op.Transition.trans numbers moved, fun b succeeded => ?_⟩
    rw [same a d' b succeeded]
    exact (between a rfl).later moved

end Hands

variable {α : Type}

/-! ### Work that hands out nothing -/

/-- A device that differs in its books only. -/
private theorem numbers_of_same (memory : d'.memory = d.memory) (events : d'.events = d.events)
    (codes : d'.nextCode = d.nextCode) (epoch : d'.epoch = d.epoch) (atomics : d'.atomics = d.atomics) :
    Numbers d d' :=
  ⟨memory ▸ Op.Transition.refl _, events ▸ Op.Transition.refl _, Nat.le_of_eq codes.symm,
    Nat.le_of_eq epoch.symm, fun _ remembered => .inl (atomics ▸ remembered)⟩

/-- A reset takes numbers back if the events are not in order. -/
instance : Tolerates [.reset] Numbers where
  change other change := by
    have grows : Grows _ _ := Tolerates.change List.not_mem_nil change
    cases change with
    | reset => exact absurd (by decide) other
    | renew =>
      refine ⟨grows, Op.Transition.refl _, Nat.le_refl _, Nat.le_refl _, ?_⟩
      rintro b ⟨⟩
      exact .inr ⟨Nat.le_refl _, Nat.lt_succ_self _⟩
    | install => exact ⟨grows, Op.Transition.refl _, Nat.le_succ _, Nat.le_refl _, fun _ => .inl⟩
    | record ran =>
      exact ⟨grows, (EventTable.record_numbers ran).2.2, Nat.le_refl _, Nat.le_refl _, fun _ => .inl⟩
    | mark ran => exact ⟨grows, (EventTable.marker_numbers ran).2.2, Nat.le_refl _, Nat.le_refl _, fun _ => .inl⟩
    | drain ran =>
      obtain ⟨next, forgotten⟩ := EventTable.drain_numbers ran
      exact ⟨grows, EventTable.numbers_of_same next forgotten, Nat.le_refl _, Nat.le_refl _, fun _ => .inl⟩
    | complete ran =>
      obtain ⟨next, forgotten⟩ := EventTable.complete_numbers ran
      exact ⟨grows, EventTable.numbers_of_same next forgotten, Nat.le_refl _, Nat.le_refl _, fun _ => .inl⟩
    | _ => exact ⟨grows, Op.Transition.refl _, Nat.le_refl _, Nat.le_refl _, fun _ => .inl⟩

private theorem numbers_count (change : DeviceCounters → DeviceCounters) : Op.Moves (count change) Numbers :=
  Op.moves_modify fun _ => numbers_of_same rfl rfl rfl rfl rfl

/-- A reset forgets the buffer for atomics, and no number. -/
theorem numbers_reset (sound : d.events.Sound) : Numbers d (reset d).state :=
  ⟨Memory.grows_clear _, (EventTable.clear_numbers sound).1, Nat.le_refl _, Nat.le_succ _, nofun⟩

/-! ### Work that hands out handles -/

private theorem hands_recordEvent (kind : EventKind) (wait : List EventId) :
    Hands (recordEvent kind wait) fun event => [.event event] := by
  intro d
  rw [recordEvent, onEvents_run]
  rcases ran : d.events.record kind wait with e | ⟨event, t⟩
  · exact ⟨Op.Transition.refl d, fun _ failed => by cases failed⟩
  obtain ⟨rfl, next, numbers⟩ := EventTable.record_numbers ran
  refine ⟨⟨Op.Transition.refl _, numbers, Nat.le_refl _, Nat.le_refl _, fun _ => .inl⟩, ?_⟩
  rintro a ⟨⟩
  refine ⟨?_, ?_, List.pairwise_singleton _ _⟩ <;> rintro h member <;> cases List.mem_singleton.1 member
  · exact Nat.le_refl _
  · exact Nat.lt_of_lt_of_eq (Nat.lt_succ_self _) next.symm

private theorem hands_enqueueMarker (wait : List EventId) :
    Hands (enqueueMarker wait) fun event => [.event event] := by
  have placed : Hands (onEvents fun t => t.marker wait) fun marker => [.event marker.1] := by
    intro d
    rw [onEvents_run]
    rcases ran : d.events.marker wait with e | ⟨⟨event, deps⟩, t⟩
    · exact ⟨Op.Transition.refl d, fun _ failed => nomatch failed⟩
    obtain ⟨rfl, next, numbers⟩ := EventTable.marker_numbers ran
    refine ⟨⟨Op.Transition.refl _, numbers, Nat.le_refl _, Nat.le_refl _, fun _ => .inl⟩, ?_⟩
    rintro a ⟨⟩
    refine ⟨?_, ?_, List.pairwise_singleton _ _⟩ <;> rintro h member <;> cases List.mem_singleton.1 member
    · exact Nat.le_refl _
    · exact Nat.lt_of_lt_of_eq (Nat.lt_succ_self _) next.symm
  refine hands_then placed (fun marker => ?_) fun marker s b succeeded => ?_
  · refine Op.moves_bind (numbers_count _) fun _ => ?_
    exact Op.moves_bind (Op.moves_modify fun _ => numbers_of_same rfl rfl rfl rfl rfl) fun _ => Op.moves_pure _
  · cases succeeded
    rfl

theorem hands_allocate (sizes : List Nat) :
    Hands (allocate sizes) fun buffers => buffers.map .buffer := by
  have reserved : Hands (onMemory fun m => m.allocate sizes) fun buffers => buffers.map .buffer := by
    intro d
    refine ⟨moves_within (only_reserve sizes) (by decide) d, ?_⟩
    rw [onMemory_run]
    rcases ran : d.memory.allocate sizes with e | ⟨buffers, m⟩
    · exact fun _ failed => nomatch failed
    rintro a ⟨⟩
    have added := (Memory.allocate_ok_iff.1 ran).2
    have fresh := Memory.addBuffers_fresh d.memory sizes
    have live := Memory.addBuffers_live d.memory sizes
    have ids := Memory.addBuffers_ids d.memory sizes
    rw [added] at fresh live ids
    refine ⟨?_, ?_, List.pairwise_map.2 ids⟩
    all_goals
      intro h member
      obtain ⟨b, handed, rfl⟩ := List.mem_map.1 member
    · exact fresh b handed
    · exact (live b handed).1
  refine hands_then reserved (fun buffers => ?_) fun buffers s b succeeded => ?_
  · exact Op.moves_bind (numbers_count _) fun _ => Op.moves_bind (Op.moves_emit _) fun _ => Op.moves_pure _
  · cases succeeded
    rfl

private theorem hands_installCode (request : CompileRequest) :
    Hands (installCode request) fun code => [.code code] := by
  intro d
  unfold installCode
  rw [Op.get_bind]
  rcases checked : d.checkTask request.task with e | _
  · exact ⟨Op.Transition.refl d, fun _ failed => nomatch failed⟩
  refine ⟨⟨Op.Transition.refl _, Op.Transition.refl _, Nat.le_succ _, Nat.le_refl _, fun _ => .inl⟩, ?_⟩
  rintro code ⟨⟩
  refine ⟨?_, ?_, List.pairwise_singleton _ _⟩ <;> rintro h member <;> cases List.mem_singleton.1 member
  · exact Nat.le_refl _
  · exact ⟨Nat.lt_succ_self _, Nat.le_refl _⟩

private theorem hands_streamIn (object : HostObject) (buffer : DeviceBuffer) (range : HostRange) (wait : List EventId) :
    Hands (streamIn object buffer range wait) fun events => events.map .event := by
  refine hands_bind (Op.moves_ofExcept _) fun data => ?_
  refine hands_bind (moves_within (only_writeBuffer _ _) (by decide)) fun _ => ?_
  refine hands_then (hands_recordEvent _ _) (fun event => ?_) fun event s b succeeded => ?_
  · exact Op.moves_bind (numbers_count _) fun _ => Op.moves_bind (Op.moves_emit _) fun _ => Op.moves_pure _
  · cases succeeded
    rfl

private theorem hands_launch (code : Binary) (frame : List KernelArg) (atomics : Option DeviceBuffer) (grid : Grid)
    (globalOffset : Nat) (wait : List EventId) :
    Hands (launch code frame atomics grid globalOffset wait) fun event => [.event event] := by
  refine hands_bind Op.moves_get fun d => ?_
  refine hands_bind (Op.moves_ofExcept _) fun kernel => ?_
  refine hands_bind (Op.moves_ofExcept _) fun threads => ?_
  refine hands_bind (moves_within (only_runKernel _ _) (by decide)) fun _ => ?_
  refine hands_then (hands_recordEvent _ _) (fun event => ?_) fun event s b succeeded => ?_
  · exact Op.moves_bind (numbers_count _) fun _ => Op.moves_bind (Op.moves_emit _) fun _ => Op.moves_pure _
  · cases succeeded
    rfl

/-- What a copy to the host leaves on the device. -/
def noteCopyOut (range : HostRange) (wait : List EventId) : DeviceOp EventId := do
  let event ← recordEvent .read wait
  count fun c => { c with copiesOut := c.copiesOut + 1, bytesOut := c.bytesOut + range.size }
  Op.emit (Performance.transfer range.size .deviceToHost none)
  pure event

/-- A copy to the host takes the bytes, puts them into the host object, and is noted. -/
theorem streamOut_run (buffer : DeviceBuffer) (range : HostRange) (wait : List EventId) (object : HostObject)
    (d : Device) : streamOut buffer range wait (object, d) =
      match (d.memory.read buffer.id range.size).bind (object.writeRange range.offset) with
      | .error e => ⟨.error e, (object, d), []⟩
      | .ok object => onDevice (noteCopyOut range wait) (object, d) := by
  unfold streamOut
  rw [Op.get_bind]
  rcases found : d.memory.read buffer.id range.size with e | data
  · rfl
  have placed : (Op.step fun s => (s.1.writeRange range.offset data).map fun object => ((), (object, s.2)) :
      CopyOut Unit) (object, d) = match object.writeRange range.offset data with
        | .error e => ⟨.error e, (object, d), []⟩
        | .ok object => ⟨.ok (), (object, d), []⟩ := by
    simp only [Op.step]
    cases object.writeRange range.offset data <;> rfl
  simp only [Op.ofExcept, Except.bind]
  rw [Op.pure_bind]
  rcases written : object.writeRange range.offset data with e | object' <;> rw [written] at placed
  · rw [Op.bind_error placed]
  · rw [Op.bind_ok placed]
    rfl

private theorem hands_noteCopyOut (range : HostRange) (wait : List EventId) :
    Hands (noteCopyOut range wait) fun event => [.event event] := by
  refine hands_then (hands_recordEvent _ _) (fun event => ?_) fun event s b succeeded => ?_
  · exact Op.moves_bind (numbers_count _) fun _ => Op.moves_bind (Op.moves_emit _) fun _ => Op.moves_pure _
  · cases succeeded
    rfl

/-- A copy to the host is waited for on request. -/
def noteCopy (range : HostRange) (wait : List EventId) (blocking : Bool) : DeviceOp EventId :=
  if blocking then do
    let event ← noteCopyOut range wait
    waitEvents [event]
    pure event
  else noteCopyOut range wait

theorem copyOut_run (object : HostObject) (buffer : DeviceBuffer) (range : HostRange) (wait : List EventId)
    (blocking : Bool) (d : Device) :
    DeviceCommand.copyOut object
        (if blocking then streamOutBlocking buffer range wait else streamOut buffer range wait) d =
      match (d.memory.read buffer.id range.size).bind (object.writeRange range.offset) with
      | .error e => ⟨.error e, d, []⟩
      | .ok _ => noteCopy range wait blocking d := by
  have ran := streamOut_run buffer range wait object d
  unfold DeviceCommand.copyOut Op.onPart noteCopy
  rcases copied : (d.memory.read buffer.id range.size).bind (object.writeRange range.offset) with e | object' <;>
    rw [copied] at ran <;> dsimp only at ran ⊢
  · cases blocking
    · rw [if_neg nofun, ran]
    · rw [if_pos rfl, streamOutBlocking, Op.bind_error ran]
  cases blocking
  · rw [if_neg nofun, if_neg nofun, ran]
    rfl
  · rw [if_pos rfl, if_pos rfl, streamOutBlocking, Op.bind_run, ran, Op.bind_run, onDevice, Op.onPart]
    rcases noteCopyOut range wait d with ⟨e | event, d', log⟩
    · rfl
    · simp only [Op.bind_run, onDevice, Op.onPart]
      rcases waitEvents [event] d' with ⟨e | u, d'', log'⟩ <;> rfl

private theorem hands_copyOut (object : HostObject) (buffer : DeviceBuffer) (range : HostRange) (wait : List EventId)
    (blocking : Bool) : Hands (DeviceCommand.copyOut object
      (if blocking then streamOutBlocking buffer range wait else streamOut buffer range wait))
        fun event => [.event event] := by
  have noted : Hands (noteCopy range wait blocking) fun event => [.event event] := by
    unfold noteCopy
    split
    · refine hands_then (hands_noteCopyOut _ _) (fun event => ?_) fun event d b succeeded => ?_
      · exact Op.moves_bind (moves_within (only_waitEvents _) (by decide)) fun _ => Op.moves_pure _
      · rw [Op.bind_run] at succeeded
        rcases waited : waitEvents [event] d with ⟨e | u, d', log⟩ <;> rw [waited] at succeeded <;>
          cases succeeded
        rfl
    · exact hands_noteCopyOut _ _
  intro d
  rw [copyOut_run]
  rcases (d.memory.read buffer.id range.size).bind (object.writeRange range.offset) with e | object'
  · exact ⟨Op.Transition.refl d, fun _ failed => nomatch failed⟩
  · exact noted d

private theorem hands_writeAtomics (values : List Int32) (wait : List EventId) :
    Hands (writeAtomics values wait) fun written => written.2.map .event := by
  refine hands_bind (moves_within (only_atomicsBuffer _) (by decide)) fun b => ?_
  refine hands_bind (moves_within (only_writeBuffer _ _) (by decide)) fun _ => ?_
  refine hands_then (hands_recordEvent _ _) (fun event => ?_) fun event d written succeeded => ?_
  · exact Op.moves_bind (numbers_count _) fun _ => Op.moves_pure _
  · cases succeeded
    rfl

/-- The buffer for atomics, if it is another one than before. -/
def newSlot (before after : Device) : List Handle :=
  match after.atomics with
  | some b => if before.atomics = some b then [] else [.buffer b]
  | none => []

private theorem mem_newSlot {h : Handle} : h ∈ newSlot d d' ↔
    ∃ b, d'.atomics = some b ∧ d.atomics ≠ some b ∧ h = .buffer b := by
  unfold newSlot
  rcases d'.atomics with _ | b
  · simp
  · split <;> simp_all

private theorem between_newSlot (numbers : Numbers d d') : Between d d' (newSlot d d') := by
  have fresh : ∀ h ∈ newSlot d d', d.Ahead h ∧ d'.Behind h := by
    intro h member
    obtain ⟨b, remembered, changed, rfl⟩ := mem_newSlot.1 member
    exact (numbers.slot b remembered).resolve_left changed
  refine ⟨fun h member => (fresh h member).1, fun h member => (fresh h member).2, ?_⟩
  unfold newSlot
  rcases d'.atomics with _ | b
  · exact List.Pairwise.nil
  · dsimp only
    split
    · exact List.Pairwise.nil
    · exact List.pairwise_singleton _ _

end Device

/-! ### What a command hands out -/

namespace DeviceCommand
open Device (Hands Numbers Between)

/-- The handles that a success names; a failure names none. -/
def named {α : Type} (outcome : Outcome DeviceError Device α) (names : α → List Handle) : List Handle :=
  match outcome.result with
  | .ok a => names a
  | .error _ => []

/-- The new handles that a command hands out. A write of atomics hands out a buffer if it makes one; from
then on it names that one over and over. -/
def issues (d : Device) : DeviceCommand → List Handle
  | allocate sizes => named (Device.allocate sizes d) fun buffers => buffers.map .buffer
  | streamIn object buffer range wait =>
    named (Device.streamIn object buffer range wait d) fun events => events.map .event
  | streamOut object buffer range wait blocking =>
    named (copyOut object
      (if blocking then Device.streamOutBlocking buffer range wait else Device.streamOut buffer range wait) d)
      fun event => [.event event]
  | installCode request => named (Device.installCode request d) fun code => [.code code]
  | writeAtomics values wait =>
    Device.newSlot d (Device.writeAtomics values wait d).state ++
      named (Device.writeAtomics values wait d) fun written => written.2.map .event
  | launch code frame atomics grid globalOffset wait =>
    named (Device.launch code frame atomics grid globalOffset wait d) fun event => [.event event]
  | enqueueMarker wait => named (Device.enqueueMarker wait d) fun event => [.event event]
  | _ => []

private theorem between_named {α : Type} {op : DeviceOp α} {names : α → List Handle} (hands : Hands op names)
    (d : Device) : Between d (op d).state (named (op d) names) := by
  unfold named
  rcases result : (op d).result with e | a
  · exact Device.between_nil _ _
  · exact (hands d).2 a result

/-- Every command moves the numberings up, and hands out numbers from between. -/
theorem between_issues (command : DeviceCommand) {d : Device} (sound : d.events.Sound) :
    Numbers d (command.run d).state ∧ Between d (command.run d).state (command.issues d) := by
  have issuing {α : Type} {op : DeviceOp α} {names : α → List Handle} (hands : Hands op names) :
      Numbers d (((fun _ => ()) <$> op : DeviceOp Unit) d).state ∧
        Between d (((fun _ => ()) <$> op : DeviceOp Unit) d).state (named (op d) names) := by
    rw [Op.map_state]
    exact ⟨(hands d).1, between_named hands d⟩
  cases command with
  | reset => exact ⟨Device.numbers_reset sound, Device.between_nil _ _⟩
  | allocate sizes => exact issuing (Device.hands_allocate sizes)
  | streamIn object buffer range wait => exact issuing (Device.hands_streamIn object buffer range wait)
  | streamOut object buffer range wait blocking =>
    exact issuing (Device.hands_copyOut object buffer range wait blocking)
  | installCode request => exact issuing (Device.hands_installCode request)
  | launch code frame atomics grid globalOffset wait =>
    exact issuing (Device.hands_launch code frame atomics grid globalOffset wait)
  | enqueueMarker wait => exact issuing (Device.hands_enqueueMarker wait)
  | writeAtomics values wait =>
    obtain ⟨numbers, events⟩ := issuing (Device.hands_writeAtomics values wait)
    refine ⟨numbers, ?_⟩
    have slot := Device.between_newSlot numbers
    simp only [DeviceCommand.run, Op.map_state] at slot events ⊢
    refine Device.between_append slot events ?_
    intro h slotted h' member
    obtain ⟨b, _, _, rfl⟩ := Device.mem_newSlot.1 slotted
    unfold named at member
    split at member
    · obtain ⟨event, _, rfl⟩ := List.mem_map.1 member
      trivial
    · cases member
  | _ => exact ⟨within _ (by simp) d, Device.between_nil _ _⟩

/-- The buffer for atomics is the one from before, or it is handed out now. -/
theorem slot {command : DeviceCommand} {d : Device} {b : DeviceBuffer}
    (remembered : (command.run d).state.atomics = some b) : d.atomics = some b ∨ .buffer b ∈ command.issues d := by
  have kept (same : Device.SameSlot d (command.run d).state) : d.atomics = some b := same ▸ remembered
  cases command with
  | writeAtomics values wait =>
    rw [run, Op.map_state] at remembered
    by_cases same : d.atomics = some b
    · exact .inl same
    · exact .inr (List.mem_append_left _ (Device.mem_newSlot.2 ⟨b, remembered, same, rfl⟩))
  | reset => cases remembered
  | _ => exact .inl (kept (within _ (by simp) d))

end DeviceCommand

namespace Device

/-- What becomes of a device, whoever uses it, and the handles that it has handed out, the oldest first. -/
inductive Past : Device → List Handle → Prop where
  | start (info : DeviceInfo) (deferred : Bool) : Past (create info deferred) []
  | step {d : Device} {issued : List Handle} (past : Past d issued) (command : DeviceCommand) :
      Past (command.run d).state (issued ++ command.issues d)

/-- What can become of a device from some moment on. -/
inductive Later (d : Device) : Device → Prop where
  | now : Later d d
  | step {d' : Device} (later : Later d d') (command : DeviceCommand) : Later d (command.run d').state

/-- All handles have numbers of their own that will not come again. -/
structure Tracked (d : Device) (issued : List Handle) : Prop where
  sound : d.events.Sound
  behind : ∀ h ∈ issued, d.Behind h
  apart : issued.Pairwise Handle.Apart
  slot : ∀ b, d.atomics = some b → .buffer b ∈ issued

private theorem tracked_command {issued : List Handle} (tracked : Tracked d issued) (command : DeviceCommand) :
    Tracked (command.run d).state (issued ++ command.issues d) := by
  obtain ⟨numbers, between⟩ := command.between_issues tracked.sound
  have behind : ∀ h ∈ issued ++ command.issues d, (command.run d).state.Behind h :=
    List.forall_mem_append.2 ⟨fun h member => numbers.behind (tracked.behind h member), between.behind⟩
  refine ⟨events_sound_command command tracked.sound, behind, ?_, ?_⟩
  · refine List.pairwise_append.2 ⟨tracked.apart, between.apart, ?_⟩
    intro h member h' issued
    exact apart_of_behind (tracked.behind h member) (between.ahead h' issued)
  · intro b remembered
    rcases command.slot remembered with kept | issued
    · exact List.mem_append_left _ (tracked.slot b kept)
    · exact List.mem_append_right _ issued

theorem tracked_of_past {issued : List Handle} (past : Past d issued) : Tracked d issued := by
  induction past with
  | start info deferred => exact ⟨EventTable.sound_start deferred, nofun, List.Pairwise.nil, nofun⟩
  | step _ command tracked => exact tracked_command tracked command

/-- The numberings go up for good. -/
theorem numbers_of_later (later : Later d d') (sound : d.events.Sound) :
    Numbers d d' ∧ d'.events.Sound := by
  induction later with
  | now => exact ⟨Op.Transition.refl d, sound⟩
  | step _ command ih =>
    obtain ⟨numbers, sound'⟩ := ih
    exact ⟨Op.Transition.trans numbers (command.between_issues sound').1, events_sound_command command sound'⟩

end Device
end Offload
