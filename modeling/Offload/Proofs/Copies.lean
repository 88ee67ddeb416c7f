import Offload.Proofs.Assets
import Offload.Proofs.Buffers

/-! One copy to a device: whether it is made, and what is noted of it. A copy that is asked for once is
left out when the buffer has received the whole object; every other one is made, unless it fails before
the device has copied anything. -/
namespace Offload

namespace Device

/-- No copy to the device is made. -/
def CopiesNone (before after : Device) : Prop :=
  after.counters.copiesIn = before.counters.copiesIn

instance : Op.Transition CopiesNone where
  refl _ := rfl
  trans first second := Eq.trans second first

instance : Tolerates [.countIn] CopiesNone where
  change other change := by
    cases change with
    | countIn => exact absurd (by decide) other
    | count same => exact same.copiesIn
    | _ => rfl

instance : SurvivesEvents CopiesNone := survivesEvents_of_allowed (by decide)

/-- A copy that succeeds is counted, one that fails is not. -/
theorem streamIn_counts (object : HostObject) (buffer : DeviceBuffer) (range : HostRange)
    (wait : List EventId) (d : Device) :
    (∃ events, (streamIn object buffer range wait d).result = .ok events) ∧
        (streamIn object buffer range wait d).state.counters.copiesIn = d.counters.copiesIn + 1 ∨
      (∃ e, (streamIn object buffer range wait d).result = .error e) ∧
        CopiesNone d (streamIn object buffer range wait d).state := by
  unfold streamIn
  rcases object.readRange range.offset range.size with e | data
  · exact .inr ⟨⟨e, rfl⟩, rfl⟩
  rw [Op.ofExcept, Op.pure_bind]
  have written : CopiesNone d (writeBuffer buffer.id data d).state := (only_writeBuffer _ _ d).within (by decide)
  rcases wrote : writeBuffer buffer.id data d with ⟨e | _, after, log⟩ <;> rw [wrote] at written
  · rw [Op.bind_error wrote]
    exact .inr ⟨⟨e, rfl⟩, written⟩
  rw [Op.bind_ok wrote]
  have recorded : CopiesNone d (recordEvent .write wait after).state :=
    Op.Transition.trans written ((only_recordEvent _ _ after).within (by decide))
  rcases made : recordEvent .write wait after with ⟨e | event, last, log⟩ <;> rw [made] at recorded
  · rw [Op.bind_error made]
    exact .inr ⟨⟨e, rfl⟩, recorded⟩
  · rw [Op.bind_ok made]
    exact .inl ⟨⟨[event], rfl⟩, congrArg (· + 1) recorded⟩

end Device

namespace Machine

/-- How many copies to it the device has made. -/
def copiesIn (s : Session) : Nat :=
  s.device.counters.copiesIn

/-- Whether the buffer of an object is marked as one that has received the whole object. -/
def contentOf (s : Session) (object : Nat) : Bool :=
  (s.machine.bindings.entries[object]?).any Binding.hasContent

/-- The object takes no device memory: it is the kernel context. -/
def TakesNone (s : Session) (object : Nat) : Prop :=
  ∃ entry, s.context.object object = .ok entry ∧ entry.object.isKernelContext = true

/-- No copy to the device, and no change of the bindings. -/
structure Idle (before after : Session) : Prop where
  copies : copiesIn after = copiesIn before
  bindings : after.machine.bindings = before.machine.bindings

instance : Op.Transition Idle where
  refl _ := ⟨rfl, rfl⟩
  trans first second := ⟨second.copies.trans first.copies, second.bindings.trans first.bindings⟩

/-- One copy to the device, noted if it was one of the whole object. -/
structure Delivers (t : Transfer) (before after : Session) : Prop where
  copies : copiesIn after = copiesIn before + 1
  bindings : after.machine.bindings =
    if t.batchSize = 0 then before.machine.bindings.modify t.object.toNat fun b => b.setContent true
    else before.machine.bindings

variable {s u v : Session} {t : Transfer} {once : Bool}

private theorem Delivers.idle (delivers : Delivers t s u) (idle : Idle u v) : Delivers t s v :=
  ⟨idle.copies.trans delivers.copies, idle.bindings.trans delivers.bindings⟩

/-! ### Around a copy -/

instance : Session.ToleratesWork Device.CopiesNone Idle where
  device _ _ none := ⟨none, rfl⟩
  passes _ _ _ _ := ⟨rfl, rfl⟩
  timer _ _ _ := ⟨rfl, rfl⟩
  kernelTime _ _ _ := ⟨rfl, rfl⟩

instance : Session.ToleratesCopies Idle where
  object _ _ _ := ⟨rfl, rfl⟩
  metric _ _ _ _ := ⟨rfl, rfl⟩

instance : Session.ToleratesLists Idle where
  lists _ _ _ := ⟨rfl, rfl⟩

/-! ### A copy that is not left out -/

/-- A copy of a host object to its buffer. -/
def deliver (t : Transfer) (entry : ObjectEntry) (buffer : DeviceBuffer) : MachineOp Unit := do
  let range ← Op.ofExcept (transferRange t entry.object.byteSize)
  let wait ← waitList t.list
  let events ← Session.onDevice (Device.streamIn entry.object buffer range wait)
  if t.batchSize = 0 then Session.modifyBinding t.object.toNat fun b => b.setContent true
  else pure ()
  resetList t.list
  profileTransfer events .copyIn .copyInBytes t.object.toNat range.size

/-- It is made, or it fails before that. -/
def MadeOrFailed (t : Transfer) (s : Session) (outcome : Outcome MachineError Session Unit) : Prop :=
  Delivers t s outcome.state ∨ Idle s outcome.state ∧ ∃ e, outcome.result = .error e

private theorem deliver_cases (t : Transfer) (entry : ObjectEntry) (buffer : DeviceBuffer) (s : Session) :
    MadeOrFailed t s (deliver t entry buffer s) := by
  unfold deliver
  rcases transferRange t entry.object.byteSize with e | range
  · exact .inr ⟨Op.Transition.refl _, e, rfl⟩
  rw [Op.ofExcept, Op.pure_bind]
  have same : s = (waitList t.list s).state :=
    Op.moves_bind (R := Eq) Op.moves_get (fun _ => Op.moves_ofExcept _) s
  rcases waited : waitList t.list s with ⟨e | wait, s', log⟩ <;> rw [waited] at same <;> subst same
  · rw [Op.bind_error waited]
    exact .inr ⟨Op.Transition.refl _, e, rfl⟩
  rw [Op.bind_ok waited]
  rcases copied : Device.streamIn entry.object buffer range wait s.device with ⟨result, d, log'⟩
  have counts := Device.streamIn_counts entry.object buffer range wait s.device
  rw [copied] at counts
  rcases counts with ⟨⟨events, rfl⟩, counted⟩ | ⟨⟨e, rfl⟩, none⟩
  · have streamed : Session.onDevice (Device.streamIn entry.object buffer range wait) s =
        ⟨.ok events, { s with device := d }, log'⟩ := by
      unfold Session.onDevice Op.onPart Op.mapError
      rw [copied]
    rw [Op.bind_ok streamed]
    left
    have rest : Op.Moves (do
        resetList t.list
        profileTransfer events .copyIn .copyInBytes t.object.toNat range.size) Idle :=
      Op.moves_bind (moves_resetList _) fun _ => moves_profileTransfer _ _ _ _ _
    split
    · next whole =>
      let noted := s.machine.bindings.modify t.object.toNat fun b => b.setContent true
      have delivers : Delivers t s { s with device := d, machine.bindings := noted } :=
        ⟨counted, (if_pos whole).symm⟩
      exact delivers.idle (rest _)
    · next batch =>
      have delivers : Delivers t s { s with device := d } := ⟨counted, (if_neg batch).symm⟩
      exact delivers.idle (rest _)
  · have streamed : Session.onDevice (Device.streamIn entry.object buffer range wait) s =
        ⟨.error (.ofDevice e), { s with device := d }, log'⟩ := by
      unfold Session.onDevice Op.onPart Op.mapError
      rw [copied]
    rw [Op.bind_error streamed]
    exact .inr ⟨⟨none, rfl⟩, _, rfl⟩

/-! ### Copies as they are asked for -/

/-- A copy to a buffer is made, unless it is asked for once and the buffer is marked. -/
theorem transferIn_bound {entry : ObjectEntry} {b : DeviceBuffer} (found : s.context.object t.object.toNat = .ok entry)
    (ordinary : ¬ entry.object.isKernelContext) (bound : bufferOf s t.object.toNat = some b) (once : Bool) :
    transferIn t once s =
      if once = true ∧ t.batchSize = 0 ∧ contentOf s t.object.toNat = true then resetList t.list s
      else deliver t entry b s := by
  obtain ⟨binding, got, _⟩ := Option.bind_eq_some_iff.1 bound
  have marked : contentOf s t.object.toNat = binding.hasContent := by
    rw [contentOf, got]
    rfl
  unfold transferIn
  rw [Op.get_bind, found, Op.ofExcept, Op.pure_bind, if_neg ordinary, boundBuffer_ok_iff.2 bound, Op.ofExcept,
    Op.pure_bind, Bindings.get_ok_iff.2 got, Op.ofExcept, Op.pure_bind, marked]
  split <;> rfl

/-- Without a buffer to copy to nothing happens, whether the copy was asked for once or always. -/
theorem transferIn_lookup (t : Transfer) (s : Session) :
    (∃ entry b, bufferOf s t.object.toNat = some b ∧ ∀ once, transferIn t once s =
        if once = true ∧ t.batchSize = 0 ∧ contentOf s t.object.toNat = true then resetList t.list s
        else deliver t entry b s) ∨
      ∃ result, (∀ once, transferIn t once s = ⟨result, s, []⟩) ∧
        (result = .ok () → TakesNone s t.object.toNat) := by
  rcases found : s.context.object t.object.toNat with e | entry
  · refine .inr ⟨.error e, fun once => ?_, fun done => by cases done⟩
    rw [transferIn, Op.get_bind, found]
    rfl
  by_cases marker : entry.object.isKernelContext
  · refine .inr ⟨.ok (), fun once => ?_, fun _ => ⟨entry, found, marker⟩⟩
    rw [transferIn, Op.get_bind, found, Op.ofExcept, Op.pure_bind, if_pos marker]
    rfl
  rcases buffered : s.machine.boundBuffer .copyIn t.object.toNat with e | b
  · refine .inr ⟨.error e, fun once => ?_, fun done => by cases done⟩
    rw [transferIn, Op.get_bind, found, Op.ofExcept, Op.pure_bind, if_neg marker, buffered]
    rfl
  · have bound := boundBuffer_ok_iff.1 buffered
    exact .inl ⟨entry, b, bound, transferIn_bound found marker bound⟩

/-- A copy that is asked for is made into the buffer of the object, or nothing is copied. -/
theorem transferIn_cases (t : Transfer) (once : Bool) (s : Session) :
    (∃ b, bufferOf s t.object.toNat = some b) ∧ Delivers t s (transferIn t once s).state ∨
      Idle s (transferIn t once s).state := by
  rcases transferIn_lookup t s with ⟨entry, b, bound, asked⟩ | ⟨result, asked, _⟩
  · rw [asked]
    split
    · exact .inr (moves_resetList _ s)
    · rcases deliver_cases t entry b s with made | ⟨idle, _⟩
      · exact .inl ⟨⟨b, bound⟩, made⟩
      · exact .inr idle
  · rw [asked]
    exact .inr (Op.Transition.refl _)

/-- A copy that is not left out is made, the kernel context excepted. -/
theorem transferIn_due (takes : ¬ TakesNone s t.object.toNat)
    (due : once = false ∨ t.batchSize ≠ 0 ∨ contentOf s t.object.toNat = false) :
    MadeOrFailed t s (transferIn t once s) := by
  rcases transferIn_lookup t s with ⟨entry, b, _, asked⟩ | ⟨result, asked, context⟩
  · rw [asked, if_neg ?_]
    · exact deliver_cases t entry b s
    · rintro ⟨rfl, whole, marked⟩
      rcases due with always | batch | unmarked
      · cases always
      · exact batch whole
      · rw [marked] at unmarked
        cases unmarked
  · rw [asked]
    rcases result with e | _
    · exact .inr ⟨Op.Transition.refl _, e, rfl⟩
    · exact absurd (context rfl) takes

/-- A buffer that has received the whole object does not receive it again. -/
theorem transferIn_leftOut (whole : t.batchSize = 0) (marked : contentOf s t.object.toNat = true) :
    Idle s (transferIn t true s).state := by
  rcases transferIn_lookup t s with ⟨entry, b, _, asked⟩ | ⟨result, asked, _⟩
  · rw [asked, if_pos ⟨rfl, whole, marked⟩]
    exact moves_resetList _ s
  · rw [asked]
    exact Op.Transition.refl _

end Machine
end Offload
