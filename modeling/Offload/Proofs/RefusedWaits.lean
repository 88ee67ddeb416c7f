import Offload.Proofs.Shadows
import Offload.Proofs.StaleHandles

/-! Requests that are to wait for an event that is not there. Each of them fails, and none is recorded. But only a
marker looks at its wait list first: a copy, a write of atomics and a launch have done their work by then, and the
work stays. -/
namespace Offload
namespace Device

variable {α β : Type} {d d' : Device} {x : EventId} {wait : List EventId} {names : α → List Handle}

/-! ### The events that were handed out since the last reset -/

/-- What becomes of a device, whoever uses it, and the handles that it has handed out since it was last reset. -/
inductive Lately : Device → List Handle → Prop where
  | start (info : DeviceInfo) (deferred : Bool) : Lately (create info deferred) []
  | reset {d : Device} {issued : List Handle} (lately : Lately d issued) :
      Lately (DeviceCommand.reset.run d).state []
  | step {d : Device} {issued : List Handle} (lately : Lately d issued) (command : DeviceCommand)
      (other : command ≠ .reset) : Lately (command.run d).state (issued ++ command.issues d)

private theorem sound_of_lately {issued : List Handle} (lately : Lately d issued) : d.events.Sound := by
  induction lately with
  | start info deferred => exact EventTable.sound_start deferred
  | reset _ sound => exact events_sound_command .reset sound
  | step _ command _ sound => exact events_sound_command command sound

/-- No number is given out to an event. -/
structure Unnumbered (before after : Device) : Prop where
  forgotten : before.events.retiredFrom ≤ after.events.retiredFrom
  next : after.events.nextId = before.events.nextId

instance : Op.Transition Unnumbered where
  refl _ := ⟨Nat.le_refl _, rfl⟩
  trans first second := ⟨Nat.le_trans first.forgotten second.forgotten, second.next.trans first.next⟩

private theorem Unnumbered.known (unnumbered : Unnumbered d d') (known : d'.events.Knows x) : d.events.Knows x :=
  ⟨Nat.le_trans unnumbered.forgotten known.1, unnumbered.next ▸ known.2⟩

instance : Tolerates [.record, .mark, .reset] Unnumbered where
  change other change := by
    cases change with
    | record | mark | reset => exact absurd (by decide) other
    | drain ran =>
      obtain ⟨next, forgotten⟩ := EventTable.drain_numbers ran
      exact ⟨Nat.le_of_eq forgotten.symm, next⟩
    | complete ran =>
      obtain ⟨next, forgotten⟩ := EventTable.complete_numbers ran
      exact ⟨Nat.le_of_eq forgotten.symm, next⟩
    | _ => exact ⟨Nat.le_refl _, rfl⟩

/-- Every event that gets a number is handed out. -/
def Announces (op : DeviceOp α) (names : α → List Handle) : Prop :=
  ∀ d, d.events.Sound → ∀ x, (op d).state.events.Knows x →
    d.events.Knows x ∨ .event x ∈ DeviceCommand.named (op d) names

private theorem SameEvents.knows_iff (same : SameEvents d d') : d'.events.Knows x ↔ d.events.Knows x := by
  rw [show d'.events = d.events from same]

private theorem announces_bind {first : DeviceOp α} {next : α → DeviceOp β} {names : β → List Handle}
    (same : Op.Moves first SameEvents) (tail : ∀ a, Announces (next a) names) : Announces (first >>= next) names := by
  intro d sound x known
  have events := same d
  rw [Op.bind_run] at known ⊢
  rcases ran : first d with ⟨e | a, d', log⟩ <;> rw [ran] at events known
  · exact .inl (events.knows_iff.1 known)
  · exact (tail a d' (events ▸ sound) x known).imp_left events.knows_iff.1

/-- A number is given out with the event, and what comes behind hands the event out. -/
theorem announces_onEvents {change : EventTable → Except DeviceError (α × EventTable)} (event : α → EventId)
    (numbered : ∀ t a t', change t = .ok (a, t') →
      event a = t.nextId ∧ t'.nextId = t.nextId + 1 ∧ t.Numbers t')
    {next : α → DeviceOp β} {names : β → List Handle}
    (hands : ∀ a d, SameEvents d (next a d).state ∧ .event (event a) ∈ DeviceCommand.named (next a d) names) :
    Announces (onEvents change >>= next) names := by
  intro d sound x known
  rw [Op.bind_run, onEvents_run] at known ⊢
  rcases changed : change d.events with e | ⟨a, t⟩ <;> rw [changed] at known
  · exact .inl known
  obtain ⟨number, next', numbers⟩ := numbered _ _ _ changed
  obtain ⟨same, handed⟩ := hands a { d with events := t }
  obtain ⟨from_start, below⟩ := same.knows_iff.1 known
  rcases Nat.lt_succ_iff_lt_or_eq.1 (Nat.lt_of_lt_of_eq below next') with earlier | rfl
  · exact .inl ⟨Nat.le_trans numbers.forgotten from_start, earlier⟩
  · rw [← number]
    exact .inr handed

private theorem announces_recordEvent (kind : EventKind) (wait : List EventId) {next : EventId → DeviceOp β}
    {names : β → List Handle}
    (hands : ∀ id d, SameEvents d (next id d).state ∧ .event id ∈ DeviceCommand.named (next id d) names) :
    Announces (recordEvent kind wait >>= next) names :=
  announces_onEvents id (fun _ _ _ => EventTable.record_numbers) hands

private theorem announces_streamIn (object : HostObject) (b : DeviceBuffer) (range : HostRange) (wait : List EventId) :
    Announces (streamIn object b range wait) fun events => events.map .event := by
  refine announces_bind (Op.moves_ofExcept _) fun data => ?_
  refine announces_bind (moves_within (only_writeBuffer _ _) (by decide)) fun _ => ?_
  exact announces_recordEvent _ _ fun _ _ => ⟨rfl, List.mem_singleton.2 rfl⟩

private theorem announces_noteCopyOut (range : HostRange) (wait : List EventId) :
    Announces (noteCopyOut range wait) fun event => [.event event] :=
  announces_recordEvent _ _ fun _ _ => ⟨rfl, List.mem_singleton.2 rfl⟩

private theorem announces_writeAtomics (values : List Int32) (wait : List EventId) :
    Announces (writeAtomics values wait) fun written => written.2.map .event := by
  refine announces_bind (moves_within (only_atomicsBuffer _) (by decide)) fun b => ?_
  refine announces_bind (moves_within (only_writeBuffer _ _) (by decide)) fun _ => ?_
  exact announces_recordEvent _ _ fun _ _ => ⟨rfl, List.mem_singleton.2 rfl⟩

private theorem announces_launch (code : Binary) (frame : List KernelArg) (atomics : Option DeviceBuffer) (grid : Grid)
    (globalOffset : Nat) (wait : List EventId) :
    Announces (launch code frame atomics grid globalOffset wait) fun event => [.event event] := by
  refine announces_bind Op.moves_get fun d => ?_
  refine announces_bind (Op.moves_ofExcept _) fun kernel => ?_
  refine announces_bind (Op.moves_ofExcept _) fun threads => ?_
  refine announces_bind (fun _ => rfl) fun _ => ?_
  exact announces_recordEvent _ _ fun _ _ => ⟨rfl, List.mem_singleton.2 rfl⟩

private theorem announces_enqueueMarker (wait : List EventId) :
    Announces (enqueueMarker wait) fun event => [.event event] :=
  announces_onEvents Prod.fst (fun _ _ _ => EventTable.marker_numbers)
    fun _ _ => ⟨rfl, List.mem_singleton.2 rfl⟩

/-- The wait for a copy to the host goes through, so that the copy is handed out. -/
theorem noteCopyOut_known {range : HostRange} {event : EventId} (sound : d.events.Sound)
    (ran : Op.Yields (noteCopyOut range wait) d event d') : d'.events.Sound ∧ d'.events.Knows event := by
  simp only [noteCopyOut, recordEvent, onEvents, count, Op.yields_bind, Op.yields_step, Op.yields_modify,
    Op.yields_emit, Op.yields_pure] at ran
  obtain ⟨id, d₁, changed, _, _, rfl, _, _, rfl, rfl, rfl⟩ := ran
  rcases recorded : d.events.record .read wait with e | ⟨id', t⟩ <;> rw [recorded] at changed <;> cases changed
  have listed : d.events.checkAll wait = .ok () := by
    unfold EventTable.record at recorded
    rcases checked : d.events.checkAll wait with e | _
    · rw [checked] at recorded
      cases recorded
    · rfl
  obtain ⟨_, _, again, later, known⟩ := sound.record_ok (sound.checkAll_ok_iff.1 listed) .read
  cases recorded.symm.trans again
  exact ⟨later.sound, known⟩

private theorem announces_copyOut (object : HostObject) (b : DeviceBuffer) (range : HostRange) (wait : List EventId)
    (blocking : Bool) : Announces (DeviceCommand.copyOut object
      (if blocking then streamOutBlocking b range wait else streamOut b range wait)) fun event => [.event event] := by
  have noted : Announces (noteCopy range wait blocking) fun event => [.event event] := by
    cases blocking with
    | false => exact announces_noteCopyOut range wait
    | true =>
      intro d sound x known
      have announced := announces_noteCopyOut range wait d sound x
      rcases ran : noteCopyOut range wait d with ⟨e | event, d', log⟩ <;> rw [ran] at announced
      · have failed : noteCopy range wait true d = ⟨.error e, d', log⟩ := Op.bind_error ran
        rw [failed] at known ⊢
        exact announced known
      have noted : Op.Yields (noteCopyOut range wait) d event d' :=
        ⟨congrArg Outcome.result ran, congrArg Outcome.state ran⟩
      obtain ⟨sound', fresh⟩ := noteCopyOut_known sound noted
      have one : ∀ e ∈ [event], d'.events.Knows e := fun e member => List.mem_singleton.1 member ▸ fresh
      obtain ⟨d₂, waited, _⟩ := waitEvents_yields sound' one
      have handed : Op.Yields (noteCopy range wait true) d event d₂ :=
        Op.yields_bind.2 ⟨event, d', noted, Op.yields_bind.2 ⟨(), d₂, waited, Op.yields_pure.2 ⟨rfl, rfl⟩⟩⟩
      rw [handed.2] at known
      rw [DeviceCommand.named, handed.1]
      have unnumbered : Unnumbered d' d₂ := (moves_within (only_waitEvents _) (by decide)).yields waited
      exact announced (unnumbered.known known)
  intro d
  rw [copyOut_run]
  rcases (d.memory.read b.id range.size).bind (object.writeRange range.offset) with e | object'
  · exact fun _ _ known => .inl known
  · exact noted d

/-- Whatever a device is asked for, resets apart, an event that is new is handed out. -/
theorem issues_announced (command : DeviceCommand) (other : command ≠ .reset) (sound : d.events.Sound)
    (known : (command.run d).state.events.Knows x) : d.events.Knows x ∨ .event x ∈ command.issues d := by
  have quiet (unnumbered : Unnumbered d (command.run d).state) : d.events.Knows x := unnumbered.known known
  cases command with
  | reset => exact absurd rfl other
  | streamIn object b range wait =>
    rw [DeviceCommand.run, Op.map_state] at known
    exact announces_streamIn object b range wait d sound x known
  | streamOut object b range wait blocking =>
    rw [DeviceCommand.run, Op.map_state] at known
    exact announces_copyOut object b range wait blocking d sound x known
  | writeAtomics values wait =>
    rw [DeviceCommand.run, Op.map_state] at known
    exact (announces_writeAtomics values wait d sound x known).imp_right (List.mem_append_right _)
  | launch code frame atomics grid globalOffset wait =>
    rw [DeviceCommand.run, Op.map_state] at known
    exact announces_launch code frame atomics grid globalOffset wait d sound x known
  | enqueueMarker wait =>
    rw [DeviceCommand.run, Op.map_state] at known
    exact announces_enqueueMarker wait d sound x known
  | _ => exact .inl (quiet (DeviceCommand.within _ (by simp) d))

/-- A device knows no event but those that it has handed out since the last reset. -/
theorem issued_of_knows {issued : List Handle} (lately : Lately d issued) (known : d.events.Knows x) :
    .event x ∈ issued := by
  induction lately with
  | start info deferred => exact absurd known.2 (Nat.not_lt.2 known.1)
  | reset _ _ => exact absurd known.2 (Nat.not_lt.2 known.1)
  | step lately command other ih =>
    refine List.mem_append.2 ?_
    exact (issues_announced command other (sound_of_lately lately) known).imp_left ih

/-! ### What a refused wait leaves behind -/

/-- What a device keeps of the commands that it was given. -/
def records (d : Device) : EventTable × DeviceCounters × List (EventId × List EventId) :=
  (d.events, d.counters, d.markerLog)

/-- With a refused wait list the operation fails and is not recorded, and has done with the data what it does
when it has nothing to wait for. -/
structure Late (op : List EventId → DeviceOp α) (wait : List EventId) (d : Device) : Prop where
  fails : ∃ e, (op wait d).result = .error e
  records : (op wait d).state.records = d.records
  data : (op wait d).state.data = (op [] d).state.data

section Late

variable {e : DeviceError}

def SameRecords (before after : Device) : Prop :=
  after.records = before.records

instance : Op.Transition SameRecords where
  refl _ := rfl
  trans first second := second.trans first

private theorem late_bind {first : DeviceOp α} {next : α → List EventId → DeviceOp β}
    (same : Op.Moves first SameRecords)
    (late : ∀ a d, d.events.checkAll wait = .error e → Late (next a) wait d)
    (refused : d.events.checkAll wait = .error e) : Late (fun wait => first >>= fun a => next a wait) wait d := by
  have records := same d
  rcases ran : first d with ⟨e' | a, d', log⟩ <;> rw [ran] at records
  · have failed (wait : List EventId) : (first >>= fun a => next a wait) d = ⟨.error e', d', log⟩ :=
      Op.bind_error ran
    exact ⟨⟨e', congrArg Outcome.result (failed wait)⟩, by rw [failed]; exact records, by rw [failed, failed]⟩
  · have events : d'.events = d.events := congrArg Prod.fst records
    obtain ⟨⟨e', failed⟩, kept, done⟩ := late a d' (events ▸ refused)
    refine ⟨⟨e', ?_⟩, ?_, ?_⟩
    · rw [Op.bind_ok ran]
      exact failed
    · rw [Op.bind_ok ran]
      exact kept.trans records
    · rw [Op.bind_ok ran, Op.bind_ok ran]
      exact done

/-- What follows the refusal and leaves the data alone changes nothing about that. -/
theorem late_then {op : List EventId → DeviceOp α} {next : α → DeviceOp β} (late : Late op wait d)
    (still : ∀ a, Op.Moves (next a) Still) : Late (fun wait => op wait >>= next) wait d := by
  obtain ⟨⟨e', failed⟩, records, data⟩ := late
  have same : ((op [] >>= next) d).state.data = (op [] d).state.data := Op.related_rest (R := Still) still d
  rcases ran : op wait d with ⟨r, d', log⟩
  rw [ran] at failed records data
  obtain rfl : r = .error e' := failed
  have left : (op wait >>= next) d = ⟨.error e', d', log⟩ := Op.bind_error ran
  exact ⟨⟨e', congrArg Outcome.result left⟩, by rw [left]; exact records, by rw [left, same]; exact data⟩

private theorem late_recordEvent (kind : EventKind) (refused : d.events.checkAll wait = .error e) :
    Late (recordEvent kind) wait d := by
  have failed : recordEvent kind wait d = ⟨.error e, d, []⟩ := by
    rw [recordEvent, onEvents_run, EventTable.record, refused]
    rfl
  refine ⟨⟨e, congrArg Outcome.result failed⟩, by rw [failed], ?_⟩
  rw [failed]
  exact (still_onEvents _ d).symm

instance : Tolerates [.record, .drain, .complete, .mark, .count, .countIn, .countOut, .reset] SameRecords where
  change other change := by
    cases change with
    | record | drain | complete | mark | count | countIn | countOut | reset => exact absurd (by decide) other
    | _ => rfl

section Commands

variable (refused : d.events.checkAll wait = .error e)
include refused

private theorem late_streamIn (object : HostObject) (b : DeviceBuffer) (range : HostRange) :
    Late (streamIn object b range) wait d := by
  refine late_bind (Op.moves_ofExcept _) (fun data d refused => ?_) refused
  refine late_bind (moves_within (only_writeBuffer _ _) (by decide)) (fun _ d refused => ?_) refused
  refine late_then (late_recordEvent _ refused) fun event => ?_
  exact Op.moves_bind (still_count _) fun _ => Op.moves_bind (Op.moves_emit _) fun _ => Op.moves_pure _

private theorem late_noteCopyOut (range : HostRange) : Late (noteCopyOut range) wait d := by
  refine late_then (late_recordEvent _ refused) fun event => ?_
  exact Op.moves_bind (still_count _) fun _ => Op.moves_bind (Op.moves_emit _) fun _ => Op.moves_pure _

private theorem late_noteCopy (range : HostRange) (blocking : Bool) :
    Late (fun wait => noteCopy range wait blocking) wait d := by
  cases blocking with
  | false => exact late_noteCopyOut refused range
  | true =>
    refine late_then (late_noteCopyOut refused range) fun event => ?_
    exact Op.moves_bind (still_waitEvents _) fun _ => Op.moves_pure _

private theorem late_writeAtomics (values : List Int32) : Late (writeAtomics values) wait d := by
  refine late_bind (moves_within (only_atomicsBuffer _) (by decide)) (fun b d refused => ?_) refused
  refine late_bind (moves_within (only_writeBuffer _ _) (by decide)) (fun _ d refused => ?_) refused
  refine late_then (late_recordEvent _ refused) fun event => ?_
  exact Op.moves_bind (still_count _) fun _ => Op.moves_pure _

private theorem late_launch (code : Binary) (frame : List KernelArg) (atomics : Option DeviceBuffer) (grid : Grid)
    (globalOffset : Nat) : Late (launch code frame atomics grid globalOffset) wait d := by
  refine late_bind Op.moves_get (fun d' d refused => ?_) refused
  refine late_bind (Op.moves_ofExcept _) (fun kernel d refused => ?_) refused
  refine late_bind (Op.moves_ofExcept _) (fun threads d refused => ?_) refused
  refine late_bind (fun _ => rfl) (fun _ d refused => ?_) refused
  refine late_then (late_recordEvent _ refused) fun event => ?_
  exact Op.moves_bind (still_count _) fun _ => Op.moves_bind (Op.moves_emit _) fun _ => Op.moves_pure _

end Commands
end Late
end Device

/-- A request that is to wait for events before it starts. -/
inductive WaitingCommand where
  | streamIn (buffer : DeviceBuffer) (range : HostRange)
  | streamOut (buffer : DeviceBuffer) (range : HostRange) (blocking : Bool)
  | writeAtomics (values : List Int32)
  | launch (code : Binary) (frame : List KernelArg) (atomics : Option DeviceBuffer) (grid : Grid)
      (globalOffset : Nat)
  | enqueueMarker

namespace WaitingCommand
open Device

variable {α : Type} {d : Device} {wait : List EventId} {x : EventId} {object : HostObject}

/-- The request, from the host object that is copied to the device or from it. -/
def run (wait : List EventId) : WaitingCommand → CopyOut Unit
  | streamIn buffer range => do
    let s ← Op.get
    (fun _ => ()) <$> onDevice (Device.streamIn s.1 buffer range wait)
  | streamOut buffer range blocking =>
    (fun _ => ()) <$>
      if blocking then streamOutBlocking buffer range wait else Device.streamOut buffer range wait
  | writeAtomics values => (fun _ => ()) <$> onDevice (Device.writeAtomics values wait)
  | launch code frame atomics grid globalOffset =>
    (fun _ => ()) <$> onDevice (Device.launch code frame atomics grid globalOffset wait)
  | enqueueMarker => (fun _ => ()) <$> onDevice (Device.enqueueMarker wait)

/-- With a refused wait list a request fails and is not recorded. Yet the data is as it is after the same request
with nothing to wait for. -/
structure Spent (command : WaitingCommand) (wait : List EventId) (s : HostObject × Device) : Prop where
  fails : ∃ e, (command.run wait s).result = .error e
  records : (command.run wait s).state.2.records = s.2.records
  object : (command.run wait s).state.1 = (command.run [] s).state.1
  data : (command.run wait s).state.2.data = (command.run [] s).state.2.data

private theorem spent_of_late {command : WaitingCommand} {op : List EventId → DeviceOp α} (object' : HostObject)
    (late : Late op wait d)
    (works : ∀ wait, command.run wait (object, d) = ((fun _ => ()) <$> onDevice (op wait)) (object', d)) :
    command.Spent wait (object, d) := by
  obtain ⟨⟨e, failed⟩, records, data⟩ := late
  have left (wait : List EventId) : (command.run wait (object, d)).state = (object', (op wait d).state) := by
    rw [works, Op.map_state]
    rfl
  refine ⟨⟨e, ?_⟩, by rw [left]; exact records, by rw [left, left], by rw [left, left]; exact data⟩
  have stopped : (onDevice (op wait) (object', d)).result = .error e := failed
  rw [works, Op.map_eq_bind, (Op.bind_of_failed stopped).1]

section CopiesOut

variable {b : DeviceBuffer} {range : HostRange} {blocking : Bool}

private theorem streamOut_refused {e : DeviceError}
    (copied : (d.memory.read b.id range.size).bind (object.writeRange range.offset) = .error e) :
    (if blocking then streamOutBlocking b range wait else Device.streamOut b range wait) (object, d) =
      ⟨.error e, (object, d), []⟩ := by
  have ran := streamOut_run b range wait object d
  rw [copied] at ran
  cases blocking with
  | false => exact ran
  | true => exact Op.bind_error ran

private theorem streamOut_noted {object' : HostObject}
    (copied : (d.memory.read b.id range.size).bind (object.writeRange range.offset) = .ok object') :
    (if blocking then streamOutBlocking b range wait else Device.streamOut b range wait) (object, d) =
      onDevice (noteCopy range wait blocking) (object', d) := by
  have ran := streamOut_run b range wait object d
  rw [copied] at ran
  cases blocking with
  | false => exact ran
  | true =>
    simp only [if_true, streamOutBlocking, noteCopy, Op.bind_run, ran, onDevice, Op.onPart]
    rcases noteCopyOut range wait d with ⟨e | event, d', log⟩
    · rfl
    · dsimp only
      rcases waitEvents [event] d' with ⟨e | u, d'', log'⟩ <;> rfl

end CopiesOut

section Refused

variable {e : DeviceError} (refused : d.events.checkAll wait = .error e) (object : HostObject)
include refused

/-- A marker looks first, and is not placed. -/
theorem marker_refused : enqueueMarker.run wait (object, d) = ⟨.error e, (object, d), []⟩ := by
  have listed : wait.isEmpty = false := by
    cases wait with
    | nil => cases refused
    | cons w rest => rfl
  have failed : Device.enqueueMarker wait d = ⟨.error e, d, []⟩ := by
    refine Op.bind_error ?_
    rw [onEvents_run, EventTable.marker, listed]
    simp only [Bool.false_eq_true, if_false, refused]
    rfl
  refine Op.bind_error ?_
  rw [onDevice, Op.onPart, failed]

private theorem spent_enqueueMarker : enqueueMarker.Spent wait (object, d) := by
  have failed := marker_refused refused object
  have works : (enqueueMarker.run [] (object, d)).state = (object, (Device.enqueueMarker [] d).state) := by
    rw [run, Op.map_state]
    rfl
  refine ⟨⟨e, by rw [failed]⟩, by rw [failed], by rw [failed, works], ?_⟩
  rw [failed, works]
  exact (still_enqueueMarker [] d).symm

/-- A copy to the host has written to the host object by then, unless its bytes are not there or do not fit. -/
theorem spent_streamOut (b : DeviceBuffer) (range : HostRange) (blocking : Bool) :
    (streamOut b range blocking).Spent wait (object, d) := by
  rcases copied : (d.memory.read b.id range.size).bind (object.writeRange range.offset) with e | object'
  · have failed (wait : List EventId) :
        (streamOut b range blocking).run wait (object, d) = ⟨.error e, (object, d), []⟩ := by
      rw [run, Op.map_eq_bind, Op.bind_error (streamOut_refused copied)]
    exact ⟨⟨e, by rw [failed]⟩, by rw [failed], by rw [failed, failed], by rw [failed, failed]⟩
  · refine spent_of_late object' (late_noteCopy refused range blocking) fun wait => ?_
    rw [run, Op.map_eq_bind, Op.map_eq_bind, Op.bind_run, Op.bind_run, streamOut_noted copied]

/-- Whatever is to wait for an event that is not there is refused too late, markers apart. -/
theorem spent (command : WaitingCommand) : command.Spent wait (object, d) := by
  cases command with
  | streamIn b range => exact spent_of_late object (late_streamIn refused object b range) fun _ => rfl
  | streamOut b range blocking => exact spent_streamOut refused object b range blocking
  | writeAtomics values => exact spent_of_late object (late_writeAtomics refused values) fun _ => rfl
  | launch code frame atomics grid globalOffset =>
    exact spent_of_late object (late_launch refused code frame atomics grid globalOffset) fun _ => rfl
  | enqueueMarker => exact spent_enqueueMarker refused object

end Refused

/-- The host object, the device buffers and the buffer for atomics are as before. -/
structure SameData (before after : HostObject × Device) : Prop where
  object : after.1 = before.1
  buffers : ∀ id, after.2.memory.contents id = before.2.memory.contents id
  atomics : after.2.atomics = before.2.atomics

/-- So are the events and the counters. -/
structure Untouched (before after : HostObject × Device) : Prop extends SameData before after where
  events : after.2.events = before.2.events
  counters : after.2.counters = before.2.counters

/-- A refused request that had nothing to do has left everything as it was, and only such a one has. -/
theorem Spent.untouched_iff {command : WaitingCommand} {s : HostObject × Device} (spent : command.Spent wait s) :
    Untouched s (command.run wait s).state ↔ SameData s (command.run [] s).state := by
  have memory : (command.run wait s).state.2.memory = (command.run [] s).state.2.memory :=
    view_of_data Device.memory (fun _ => rfl) spent.data
  have atomics : (command.run wait s).state.2.atomics = (command.run [] s).state.2.atomics :=
    view_of_data Device.atomics (fun _ => rfl) spent.data
  constructor
  · rintro ⟨⟨object, buffers, slot⟩, _, _⟩
    exact ⟨spent.object ▸ object, memory ▸ buffers, atomics ▸ slot⟩
  · rintro ⟨object, buffers, slot⟩
    refine ⟨⟨spent.object ▸ object, ?_, atomics ▸ slot⟩, congrArg Prod.fst spent.records,
      congrArg (fun r => r.2.1) spent.records⟩
    rw [memory]
    exact buffers

/-- A request that is to wait for an event which was not handed out since the last reset fails and is not recorded.
A marker has changed nothing at all then. Any other request has done with the data what it does when it has nothing
to wait for, so it has left everything as it was when that would have done nothing, and only then. -/
theorem refused_wait {issued : List Handle} (lately : Lately d issued) (listed : x ∈ wait)
    (foreign : .event x ∉ issued) (command : WaitingCommand) (object : HostObject) :
    command.Spent wait (object, d) ∧
      (command = enqueueMarker → (command.run wait (object, d)).state = (object, d)) ∧
      (Untouched (object, d) (command.run wait (object, d)).state ↔
        SameData (object, d) (command.run [] (object, d)).state) := by
  have unknown : ¬ d.events.Knows x := fun known => foreign (issued_of_knows lately known)
  obtain ⟨first, _, _, refused⟩ := checkAll_first (sound_of_lately lately) unknown listed
  have spent := command.spent refused object
  refine ⟨spent, ?_, spent.untouched_iff⟩
  rintro rfl
  rw [marker_refused refused object]

/-- A device with a buffer of four bytes. -/
def roomy : Device :=
  ((DeviceCommand.allocate [4]).run (create {} false)).state

private theorem roomy_lately : Lately roomy [.buffer ⟨1, 4⟩] :=
  .step (.start {} false) (.allocate [4]) nofun

def seven : HostObject :=
  .array (.ofWords .i32 [7])

/-- A copy that is to wait for an event of another device is refused when the buffer is overwritten, and a marker
before anything has happened. -/
theorem roomy_refuses : (streamIn ⟨1, 4⟩ ⟨0, 4⟩).Spent [99] (seven, roomy) ∧
    ¬ Untouched (seven, roomy) ((streamIn ⟨1, 4⟩ ⟨0, 4⟩).run [99] (seven, roomy)).state ∧
    (enqueueMarker.run [99] (seven, roomy)).state = (seven, roomy) := by
  have listed : 99 ∈ [99] := List.mem_singleton.2 rfl
  have foreign : .event 99 ∉ [Handle.buffer ⟨1, 4⟩] := by simp
  obtain ⟨spent, _, clean⟩ := refused_wait roomy_lately listed foreign (streamIn ⟨1, 4⟩ ⟨0, 4⟩) seven
  have marker := (refused_wait roomy_lately listed foreign enqueueMarker seven).2.1 rfl
  refine ⟨spent, fun untouched => ?_, marker⟩
  have kept := (clean.1 untouched).buffers 1
  cases kept

/-- A copy of other bytes, refused, has overwritten the buffer. -/
theorem refused_wait_not_clean : ¬ ∀ d issued, Lately d issued → ∀ wait x, x ∈ wait → .event x ∉ issued →
    ∀ (command : WaitingCommand) object, (∃ e, (command.run wait (object, d)).result = .error e) ∧
      Untouched (object, d) (command.run wait (object, d)).state := by
  intro claim
  have kept := (claim _ _ roomy_lately [99] 99 (by simp) (by simp) (streamIn ⟨1, 4⟩ ⟨0, 4⟩) seven).2.buffers 1
  cases kept

end WaitingCommand
end Offload
