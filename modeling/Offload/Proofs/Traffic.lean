import Offload.Proofs.Handles
import Offload.Proofs.Metrics
import Offload.Proofs.Transfers

/-! Which bytes a device counts, and which work counts none. A copy counts its bytes when it is recorded, and fails
before that or not at all: on a device whose events are in order, nothing that comes behind the record can fail.
Launches, markers and the rest of a pass count no bytes, and measure nothing but kernels and times. -/
namespace Offload
open Performance (Direction)

namespace Device

variable {α β : Type} {d d' : Device} {wait : List EventId} {direction : Direction}

/-- The bytes that a device has counted as copied. -/
def traffic (d : Device) : Direction → Nat
  | .hostToDevice => d.counters.bytesIn
  | .deviceToHost => d.counters.bytesOut

/-- The traffic after more bytes in one direction. -/
def trafficWith (d : Device) (direction : Direction) (bytes : Nat) (other : Direction) : Nat :=
  d.traffic other + if other = direction then bytes else 0

/-- No bytes are counted. -/
def SameTraffic (before after : Device) : Prop :=
  after.traffic = before.traffic

instance : Op.Transition SameTraffic where
  refl _ := rfl
  trans first second := Eq.trans second first

/-! ### Work without copies -/

instance : Tolerates [.countIn, .countOut] SameTraffic where
  change other change := by
    cases change with
    | countIn | countOut => exact absurd (by decide) other
    | count same =>
      funext direction
      cases direction with
      | hostToDevice => exact same.bytesIn
      | deviceToHost => exact same.bytesOut
    | _ => rfl

instance : SurvivesLaunches SameTraffic := survivesLaunches_of_allowed (by decide)

/-! ### Copies -/

variable {bytes : Nat} {make : EventId → α}

/-- A copy has ended well: its event is good, and its bytes are counted. -/
structure Counts (d : Device) (direction : Direction) (bytes : Nat) (event : EventId) (after : Device) : Prop where
  sound : after.events.Sound
  known : after.events.Knows event
  traffic : after.traffic = d.trafficWith direction bytes

/-- When the events are in order, the copy fails and counts nothing, or it ends well. -/
def Counted (op : DeviceOp α) (direction : Direction) (bytes : Nat) (make : EventId → α) : Prop :=
  ∀ d, d.events.Sound →
    (∃ e, (op d).result = .error e) ∧ SameTraffic d (op d).state ∨
      ∃ event d', Op.Yields op d (make event) d' ∧ d.Counts direction bytes event d'

/-- A command that waits for an event which is not there is not recorded. -/
theorem counted_record {kind : EventKind} {change : DeviceCounters → DeviceCounters} {log : LogEvent}
    (counts : ∀ d : Device, { d with counters := change d.counters }.traffic = d.trafficWith direction bytes) :
    Counted (do
      let event ← recordEvent kind wait
      count change
      Op.emit log
      pure (make event)) direction bytes make := by
  intro d sound
  -- The events that it waits for are looked up first, and nothing else can refuse the record.
  rcases listed : d.events.checkAll wait with e | ⟨⟩
  · have refused : recordEvent kind wait d = ⟨.error e, d, []⟩ := by
      rw [recordEvent, onEvents_run, EventTable.record, listed]
      rfl
    rw [Op.bind_error refused]
    exact .inl ⟨⟨e, rfl⟩, rfl⟩
  · obtain ⟨event, t, recorded, later, known⟩ := sound.record_ok (sound.checkAll_ok_iff.1 listed) kind
    have ran : Op.Yields (recordEvent kind wait) d event { d with events := t } := by
      rw [Op.Yields, recordEvent, onEvents_run, recorded]
      exact ⟨rfl, rfl⟩
    refine .inr ⟨event, _, Op.yields_bind.2 ⟨event, _, ran, rfl, rfl⟩, later.sound, known, ?_⟩
    exact counts { d with events := t }

/-- What comes before the record is not counted. -/
theorem counted_bind {first : DeviceOp β} {next : β → DeviceOp α}
    (quiet : ∀ d, SameTraffic d (first d).state ∧ (first d).state.events = d.events)
    (counted : ∀ b, Counted (next b) direction bytes make) : Counted (first >>= next) direction bytes make := by
  intro d sound
  obtain ⟨same, events⟩ := quiet d
  rcases ran : first d with ⟨e | b, d', log⟩ <;> rw [ran] at same events
  · rw [Op.bind_error ran]
    exact .inl ⟨⟨e, rfl⟩, same⟩
  have began : Op.Yields first d b d' := ⟨congrArg Outcome.result ran, congrArg Outcome.state ran⟩
  rw [SameTraffic, (Op.bind_of_yields began).1, (Op.bind_of_yields began).2]
  rcases counted b d' (events ▸ sound) with ⟨failed, none⟩ | ⟨event, after, ended, counts⟩
  · exact .inl ⟨failed, none.trans same⟩
  · refine .inr ⟨event, after, Op.yields_bind.2 ⟨b, d', began, ended⟩, counts.sound, counts.known, ?_⟩
    rw [counts.traffic]
    funext other
    rw [trafficWith, trafficWith, show d'.traffic = d.traffic from same]

/-- Waiting for a copy that has ended well goes through. -/
theorem counted_wait {op : DeviceOp EventId} (counted : Counted op direction bytes id) :
    Counted (do
      let event ← op
      waitEvents [event]
      pure event) direction bytes id := by
  intro d sound
  rcases counted d sound with ⟨⟨e, failed⟩, none⟩ | ⟨event, d', ran, counts⟩
  · refine .inl ⟨⟨e, (Op.bind_of_failed failed).1⟩, ?_⟩
    rw [(Op.bind_of_failed failed).2]
    exact none
  · obtain ⟨last, waited, later⟩ := waitEvents_yields counts.sound (List.forall_mem_singleton.2 counts.known)
    have traffic := (moves_within (R := SameTraffic) (only_waitEvents [event]) (by decide)).yields waited
    refine .inr ⟨event, last, Op.yields_bind.2 ⟨event, d', ran, Op.yields_bind.2 ⟨(), last, waited, rfl, rfl⟩⟩, ?_⟩
    exact ⟨later.sound, later.knows event counts.known, traffic.trans counts.traffic⟩

theorem counted_streamIn (object : HostObject) (buffer : DeviceBuffer) (range : HostRange) (wait : List EventId) :
    Counted (streamIn object buffer range wait) .hostToDevice range.size fun event => [event] := by
  refine counted_bind (fun d => ?_) fun data => counted_bind (fun d => ?_) fun _ => counted_record fun d => ?_
  · have same := Op.moves_ofExcept (R := Eq) (object.readRange range.offset range.size) d
    rw [← same]
    exact ⟨rfl, rfl⟩
  · rw [writeBuffer, onMemory_run]
    rcases (d.memory.write buffer.id data).map _ with e | ⟨_, memory⟩ <;> exact ⟨rfl, rfl⟩
  · funext other
    cases other <;> simp [traffic, trafficWith]

theorem counted_copyBack (object : HostObject) (blocking : Bool) (buffer : DeviceBuffer) (range : HostRange)
    (wait : List EventId) :
    Counted (DeviceCommand.copyOut object (copyBack blocking buffer range wait)) .deviceToHost range.size id := by
  have noted : Counted (noteCopyOut range wait) .deviceToHost range.size id := by
    refine counted_record fun d => ?_
    funext other
    cases other <;> simp [traffic, trafficWith]
  have copied : Counted (noteCopy range wait blocking) .deviceToHost range.size id := by
    cases blocking with
    | false => exact noted
    | true => exact counted_wait noted
  intro d sound
  simp only [Op.Yields, copyBack, copyOut_run]
  rcases (d.memory.read buffer.id range.size).bind (object.writeRange range.offset) with e | object'
  · exact .inl ⟨⟨e, rfl⟩, rfl⟩
  · exact copied d sound

end Device

namespace Session

/-- What a session has measured. -/
def profile (s : Session) : Profile :=
  s.machine.profiler.profile

/-- Nothing is counted: no measurement but of kernels and times, no bytes on the device, none of the budget. -/
structure Uncounted (before after : Session) : Prop where
  enabled : after.machine.profiler.isEnabled = before.machine.profiler.isEnabled
  totals : ∀ kind, kind ≠ .kernelTime → after.profile.totals kind = before.profile.totals kind
  traffic : after.device.traffic = before.device.traffic
  usage : after.context.memory.usage = before.context.memory.usage

instance : Op.Transition Uncounted where
  refl _ := ⟨rfl, fun _ _ => rfl, rfl, rfl⟩
  trans first second :=
    ⟨second.enabled.trans first.enabled, fun kind other => (second.totals kind other).trans (first.totals kind other),
      second.traffic.trans first.traffic, second.usage.trans first.usage⟩

instance : ToleratesWork Device.SameTraffic Uncounted where
  device _ _ same := ⟨rfl, fun _ _ => rfl, same, rfl⟩
  timer _ _ _ := ⟨Profiler.isEnabled_addTimer _ _ _, fun kind _ => Profiler.totals_addTimer _ _ _ kind, rfl, rfl⟩
  -- The times of kernels are no bytes.
  kernelTime _ _ _ :=
    ⟨Profiler.isEnabled_addMetric _ _ _ _, fun _ other => Profiler.totals_addMetric_other _ _ _ (Ne.symm other), rfl, rfl⟩
  passes _ _ _ _ := ⟨rfl, fun _ _ => rfl, rfl, rfl⟩

instance : ToleratesLists Uncounted where
  lists _ _ _ := ⟨rfl, fun _ _ => rfl, rfl, rfl⟩

instance : ToleratesCode Uncounted where
  code _ _ _ _ := ⟨rfl, fun _ _ => rfl, rfl, rfl⟩

end Session
end Offload
