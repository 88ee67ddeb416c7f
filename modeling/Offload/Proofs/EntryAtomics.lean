import Offload.Proofs.Arguments
import Offload.Proofs.AtomicsSlot
import Offload.Proofs.DeviceHistory
import Offload.Proofs.WarmPasses

/-! The atomics that a kernel finds when it starts. The buffer for them is as large as the largest write since the
last reset has made it, and a kernel is shown all of it. So its own values come first, and behind them stands what
the buffer held there before. -/
namespace Offload

/-! ### Integers in bytes -/

namespace Kernel

variable {bytes : Bytes} {count : Nat}

@[simp] theorem int32s_ofInt32s (values : List Int32) : int32s (Bytes.ofInt32s values) = values := by
  have same (value : Int32) : (UInt32.ofNat value.toUInt32.toNat).toInt32 = value := by simp
  rw [int32s, Bytes.words_ofInt32s, List.map_map]
  exact (List.map_congr_left fun value _ => same value).trans (List.map_id _)

/-- Whole words are the integers that are read from them. -/
theorem ofInt32s_int32s (whole : bytes.length = 4 * count) : Bytes.ofInt32s (int32s bytes) = bytes := by
  induction count generalizing bytes with
  | zero =>
    obtain rfl := List.eq_nil_of_length_eq_zero whole
    rfl
  | succ count ih =>
    have first : (bytes.take 4).length = 4 := by
      rw [List.length_take]
      omega
    have rest : (bytes.drop 4).length = 4 * count := by
      rw [List.length_drop]
      omega
    have spelled : Bytes.ofNatLE 4 (Bytes.toNatLE (bytes.take 4)) = bytes.take 4 := by
      simpa only [first] using Bytes.ofNatLE_toNatLE (bytes.take 4)
    have small : Bytes.toNatLE (bytes.take 4) < UInt32.size := by
      have below := Bytes.toNatLE_lt (bytes.take 4)
      rwa [first] at below
    have read : int32s (bytes.take 4 ++ bytes.drop 4) =
        (UInt32.ofNat (Bytes.toNatLE (bytes.take 4))).toInt32 :: int32s (bytes.drop 4) := by
      rw [int32s, Bytes.words_cons (by decide) first]
      rfl
    rw [List.take_append_drop] at read
    have one (value : Int32) : Bytes.ofInt32s [value] = Bytes.ofNatLE 4 value.toUInt32.toNat :=
      List.append_nil _
    rw [read, ← List.singleton_append, Bytes.ofInt32s_append, ih rest, one, UInt32.toUInt32_toInt32,
      UInt32.toNat_ofNat_of_lt' small, spelled, List.take_append_drop]

private theorem length_int32s (whole : bytes.length = 4 * count) : (int32s bytes).length = count := by
  have same := congrArg List.length (ofInt32s_int32s whole)
  rw [Bytes.length_ofInt32s] at same
  omega

end Kernel

/-! ### The largest write -/

/-- How many values a write of atomics has found room for. -/
def DeviceStep.atomics (step : DeviceStep) : Nat :=
  match step.command with
  | .writeAtomics values _ =>
    match (Device.atomicsBuffer (4 * values.length) step.before).result with
    | .ok _ => values.length
    | .error _ => 0
  | _ => 0

/-- The most values that a write of atomics has found room for. -/
def mostAtomics (steps : List DeviceStep) : Nat :=
  steps.foldl (fun most step => max most step.atomics) 0

private theorem mostAtomics_append (steps : List DeviceStep) (step : DeviceStep) :
    mostAtomics (steps ++ [step]) = max (mostAtomics steps) step.atomics := by
  rw [mostAtomics, List.foldl_append]
  rfl

namespace Device

variable {d d' : Device} {steps : List DeviceStep} {most : Nat}

/-- The remembered buffer has room for `most` values. -/
structure HasRoom (d : Device) (most : Nat) : Prop where
  issued : ∀ b, d.atomics = some b → d.memory.Issued b
  size : ∀ b, d.atomics = some b → b.size = 4 * most
  absent : d.atomics = none → most = 0

private theorem HasRoom.keep (room : HasRoom d most) (atomics : d'.atomics = d.atomics)
    (grows : d.memory.Grows d'.memory) :
    HasRoom d' most where
  issued b remembered := Memory.issued_later (room.issued b (atomics ▸ remembered)) grows
  size b remembered := room.size b (atomics ▸ remembered)
  absent gone := room.absent (atomics ▸ gone)

private theorem hasRoom_forgotten (gone : d.atomics = none) : HasRoom d 0 where
  issued _ remembered := nomatch gone.symm.trans remembered
  size _ remembered := nomatch gone.symm.trans remembered
  absent _ := rfl

/-- What becomes of the remembered buffer when room for more values is asked for: it is kept, or it was too small
and there is a new one in its place, or there is none to be had. -/
theorem HasRoom.atomicsBuffer_cases (room : HasRoom d most) (count : Nat) :
    (∃ b, d.atomics = some b ∧ count ≤ most ∧ atomicsBuffer (4 * count) d = ⟨.ok b, d, []⟩) ∨
      (∃ b d', most ≤ count ∧ atomicsBuffer (4 * count) d = ⟨.ok b, d', []⟩ ∧ d'.atomics = some b ∧
        d'.memory.Live b ∧ HasRoom d' count ∧ ∀ old, d.atomics = some old → d.memory.Live old) ∨
      ∃ e d', atomicsBuffer (4 * count) d = ⟨.error e, d', []⟩ ∧ HasRoom d' most := by
  by_cases enough : ∃ b, d.atomics = some b ∧ 4 * count ≤ b.size
  · obtain ⟨b, remembered, enough⟩ := enough
    have fits := room.size b remembered
    exact .inl ⟨b, remembered, by omega, atomicsBuffer_kept remembered enough⟩
  have small (b : DeviceBuffer) (remembered : d.atomics = some b) : ¬ 4 * count ≤ b.size :=
    fun fits => enough ⟨b, remembered, fits⟩
  by_cases lives : ∀ b, d.atomics = some b → d.memory.Live b
  · have ran := newAtomics_run (4 * count) d.vacated
    rw [← atomicsBuffer_outgrown fun b remembered => ⟨small b remembered, lives b remembered⟩] at ran
    split at ran
    · exact .inr (.inr ⟨_, _, ran, room.keep (vacated_atomics d) (vacated_memory d).2⟩)
    · have live : (d.vacated.memory.addBuffer (4 * count)).2.Live ⟨d.vacated.memory.nextId, 4 * count⟩ :=
        ⟨.zeroed (4 * count), by simp [Memory.addBuffer, Table.get?_insert], rfl⟩
      refine .inr (.inl ⟨_, _, ?_, ran, rfl, live, ⟨?_, ?_, by simp⟩, lives⟩)
      · rcases remembered : d.atomics with _ | b
        · exact room.absent remembered ▸ Nat.zero_le _
        · have outgrown := small b remembered
          have fits := room.size b remembered
          omega
      · rintro b ⟨⟩
        exact Memory.issued_of_live (Nat.lt_succ_self _) live
      · rintro b ⟨⟩
        rfl
  · obtain ⟨b, dead⟩ := not_forall.1 lives
    obtain ⟨remembered, dead⟩ := Classical.not_imp.1 dead
    refine .inr (.inr ⟨_, d, atomicsBuffer_gone remembered (small b remembered) ?_, room⟩)
    rcases found : d.memory.buffers.get? b.id with _ | held
    · rfl
    · exact absurd ⟨held, found, (room.issued b remembered).2 held found⟩ dead

private theorem HasRoom.works (room : HasRoom d most) (works : Works d d') : HasRoom d' most :=
  room.keep works.atomics works.memory

private theorem hasRoom_writeAtomics (room : HasRoom d most) (values : List Int32) (wait : List EventId) :
    HasRoom (writeAtomics values wait d).state (max most (DeviceStep.atomics ⟨d, .writeAtomics values wait⟩)) := by
  have fill (b : DeviceBuffer) (d' : Device) (ran : atomicsBuffer (4 * values.length) d = ⟨.ok b, d', []⟩) :
      Works d' (writeAtomics values wait d).state := by
    rw [writeAtomics_eq, Op.bind_ok ran]
    exact works_fill b values wait d'
  rcases room.atomicsBuffer_cases values.length with
    ⟨b, _, enough, ran⟩ | ⟨b, d', more, ran, _, _, room', _⟩ | ⟨e, d', ran, room'⟩
  · simp only [DeviceStep.atomics, ran, Nat.max_eq_left enough]
    exact room.works (fill b d ran)
  · simp only [DeviceStep.atomics, ran, Nat.max_eq_right more]
    exact room'.works (fill b d' ran)
  · simp only [DeviceStep.atomics, ran, Nat.max_zero]
    rw [writeAtomics_eq, Op.bind_error ran]
    exact room'

/-- The remembered buffer has room for as many values as the largest write since the reset. -/
theorem hasRoom_used (used : Used d steps) : HasRoom d (mostAtomics steps) := by
  induction used with
  | new info deferred => exact hasRoom_forgotten rfl
  | @step d steps used command ih =>
    have kept (same : SameSlot d (command.run d).state)
        (silent : mostAtomics (command.since d steps) = mostAtomics steps) :
        HasRoom (command.run d).state (mostAtomics (command.since d steps)) := by
      rw [silent]
      exact ih.keep same (command.grows d)
    cases command with
    | reset => exact hasRoom_forgotten rfl
    | writeAtomics values wait =>
      simp only [DeviceCommand.since, mostAtomics_append]
      rw [DeviceCommand.run, Op.map_state]
      exact hasRoom_writeAtomics ih values wait
    | _ =>
      refine kept (DeviceCommand.within _ (by simp) d) ?_
      simp only [DeviceCommand.since, mostAtomics_append, DeviceStep.atomics, Nat.max_zero]

/-! ### What a kernel finds -/

/-- The values in the buffer that is remembered for atomics. -/
def heldAtomics (d : Device) : List Int32 :=
  match d.atomics with
  | some b =>
    match d.memory.contents b.id with
    | .ok bytes => Kernel.int32s bytes
    | .error _ => []
  | none => []

private theorem HasRoom.heldAtomics_live (room : HasRoom d most) (lives : ∀ b, d.atomics = some b → d.memory.Live b) :
    d.heldAtomics.length = most ∧
      ∀ b, d.atomics = some b → d.memory.contents b.id = .ok (Bytes.ofInt32s d.heldAtomics) := by
  rcases remembered : d.atomics with _ | b
  · simp only [heldAtomics, remembered]
    exact ⟨(room.absent remembered).symm, nofun⟩
  · obtain ⟨held, found, size⟩ := lives b remembered
    have whole : held.bytes.length = 4 * most := by
      rw [Buffer.length_bytes, size, room.size b remembered]
    have contents : d.memory.contents b.id = .ok held.bytes := Memory.contents_ok_iff.2 ⟨held, found, rfl⟩
    simp only [heldAtomics, remembered, contents]
    refine ⟨Kernel.length_int32s whole, ?_⟩
    rintro b ⟨⟩
    rw [contents, Kernel.ofInt32s_int32s whole]

/-- A write of atomics leaves them at the start of the buffer, and behind them what the device held there. -/
theorem HasRoom.writeAtomics_held {values : List Int32} {wait written : List EventId} {buffer : DeviceBuffer}
    (room : HasRoom d most) (ran : Op.Yields (writeAtomics values wait) d (buffer, written) d') :
    d.heldAtomics.length = most ∧
      d'.memory.contents buffer.id = .ok (Bytes.ofInt32s (values ++ d.heldAtomics.drop values.length)) := by
  obtain ⟨b, middle, got, ran⟩ := Op.yields_bind.1 ran
  obtain ⟨rfl, old, holds, filled⟩ := yields_fill ran
  rcases room.atomicsBuffer_cases values.length with
    ⟨b, remembered, _, same⟩ | ⟨b, middle', more, same, remembered, live, room', lives⟩ | ⟨e, _, failed, _⟩
  · obtain ⟨rfl, rfl⟩ : b = buffer ∧ d = middle := by simpa [Op.Yields, same] using got
    obtain ⟨held, found, _⟩ := Memory.contents_ok_iff.1 holds
    have lives (other : DeviceBuffer) (also : d.atomics = some other) : d.memory.Live other := by
      obtain rfl := Option.some.inj (remembered.symm.trans also)
      exact ⟨held, found, (room.issued _ remembered).2 held found⟩
    obtain ⟨length, contents⟩ := room.heldAtomics_live lives
    obtain rfl := Except.ok.inj (holds.symm.trans (contents b remembered))
    rw [Bytes.drop_ofInt32s, ← Bytes.ofInt32s_append] at filled
    exact ⟨length, filled⟩
  · obtain ⟨rfl, rfl⟩ : b = buffer ∧ middle' = middle := by simpa [Op.Yields, same] using got
    obtain ⟨length, _⟩ := room.heldAtomics_live lives
    obtain ⟨full, contents⟩ := room'.heldAtomics_live fun other also =>
      Option.some.inj (remembered.symm.trans also) ▸ live
    obtain rfl := Except.ok.inj (holds.symm.trans (contents b remembered))
    -- The new buffer has no room for more, and there was less in the old one.
    rw [Bytes.drop_ofInt32s, ← Bytes.ofInt32s_append, List.drop_of_length_le (Nat.le_of_eq full)] at filled
    rw [List.drop_of_length_le (length ▸ more)]
    exact ⟨length, filled⟩
  · simp [Op.Yields, failed] at got

end Device

namespace Machine

variable {s t : Session} {l : Launch}

private theorem compile_device {u : Unit} (ran : Op.Yields (compile l) s u t) :
    t.device = s.device.withCompilations t.device := by
  simp only [compile, Op.yields_bind, yields_syncEpoch] at ran
  obtain ⟨_, _, ⟨_, rfl⟩ | ⟨_, _, rfl⟩, fit⟩ := ran <;> exact ((compiled_fitCode l).yields fit).device

private theorem sendAtomics_held {values : List Int32} {sent : Option DeviceBuffer} {written : List EventId}
    {most : Nat}
    (room : s.device.HasRoom most) (ran : Op.Yields (sendAtomics values) s (sent, written) t) :
    values = [] ∧ sent = none ∨
      values ≠ [] ∧ s.device.heldAtomics.length = most ∧ ∃ buffer, sent = some buffer ∧
        t.device.memory.contents buffer.id =
          .ok (Bytes.ofInt32s (values ++ s.device.heldAtomics.drop values.length)) := by
  unfold sendAtomics at ran
  split at ran
  · next empty =>
    simp only [Op.yields_pure, Prod.mk.injEq] at ran
    exact .inl ⟨List.isEmpty_iff.1 empty, ran.1.1.symm⟩
  · next some =>
    simp only [Op.yields_bind, Op.yields_pure, Prod.mk.injEq] at ran
    obtain ⟨⟨buffer, _⟩, _, wrote, ⟨sent, _⟩, rfl⟩ := ran
    obtain ⟨d, written, rfl⟩ := yields_onDevice.1 wrote
    obtain ⟨length, holds⟩ := room.writeAtomics_held written
    exact .inr ⟨fun empty => some (List.isEmpty_iff.2 empty), length, buffer, sent.symm, holds⟩

/-- A kernel finds the values of the atomic arguments of its launch at the start of the atomics. The atomics are as
long as the longest that were written since the device was reset, those of other launches and of other machines
included, and what is behind the own values was there before. If there are no own values, there are no atomics. -/
theorem entry_atomics {steps : List DeviceStep} {code : Binary} {b : BoundLaunch}
    (used : s.device.Used steps) (ran : Op.Yields (prepareLaunch l) s (code, b) t) :
    (s.context.atomicsOf l.args = [] →
      (Invocation.ofLaunch code b.frame b.atomics b.grid l.offset.toNat).atomicsBytes t.device.memory =
        .error (.executionError "launch has no atomics buffer")) ∧
    (s.context.atomicsOf l.args ≠ [] → ∃ content,
      (Invocation.ofLaunch code b.frame b.atomics b.grid l.offset.toNat).atomicsBytes t.device.memory = .ok content ∧
      Kernel.int32s content = s.context.atomicsOf l.args ++
        s.device.heldAtomics.drop (s.context.atomicsOf l.args).length ∧
      s.device.heldAtomics.length = mostAtomics steps ∧
      (Kernel.int32s content = s.context.atomicsOf l.args ↔
        mostAtomics steps ≤ (s.context.atomicsOf l.args).length)) := by
  simp only [prepareLaunch, Op.yields_bind, Op.yields_pure, Prod.mk.injEq] at ran
  obtain ⟨_, fit, compiled, _, _, looked, _, _, binding, ⟨rfl, rfl⟩, rfl⟩ := ran
  obtain rfl := (moves_installedCode (R := Eq) l).yields looked
  obtain ⟨_, u, written, same, sending⟩ := bindLaunch_yields binding
  rw [atomicsOf_compile compiled] at sending
  have device := compile_device compiled
  have room : u.device.HasRoom (mostAtomics steps) := by
    rw [same, device]
    exact (Device.hasRoom_used used).keep rfl (Op.Transition.refl _)
  have held : u.device.heldAtomics = s.device.heldAtomics := by
    rw [same, device]
    rfl
  rcases sendAtomics_held room sending with ⟨empty, unsent⟩ | ⟨some, length, buffer, sent, holds⟩
  · rw [unsent]
    exact ⟨fun _ => rfl, fun some => absurd empty some⟩
  · rw [held] at length holds
    refine ⟨fun empty => absurd empty some, fun _ => ⟨_, ?_, Kernel.int32s_ofInt32s _, length, ?_⟩⟩
    · rw [sent]
      exact holds
    · rw [Kernel.int32s_ofInt32s, List.append_right_eq_self, List.drop_eq_nil_iff, length]

end Machine

namespace Pool

/-- A machine that launches a kernel with two atomic values and then with one. -/
def twoLaunches : Pool :=
  let program := Assembly.bytes
    { instructions := [.context 0, .beginPass, .launch (Workspace.launchWith [.reference 0]),
        .launch (Workspace.launchWith [.reference 1]), .endPass] }
  let context : Context :=
    { name := "two launches"
      objects := [{ object := .ofInt32s [1, 2], atomic := true }, { object := .scalar (.i32 7), atomic := true }]
      tasks := [{ id := "t", kernel := "probe" }] }
  let start : Pool := { contexts := [context], devices := [.create {} false] }
  (start.onDevice 0 (.registerKernel "probe" Kernel.probe)).build 0 0 program {}

private theorem twoLaunches_reachable : twoLaunches.Reachable fun _ => True := by
  unfold twoLaunches
  refine .step ?_ (.build _ 0 0 _ _)
  exact .step (.start [_] [({}, false)] (by simp)) (.device _ 0 (.registerKernel "probe" Kernel.probe) trivial)

/-- The second launch, after the first one. -/
theorem twoLaunches_prepared : ∃ s steps code b t,
    s.device.Used steps ∧
      Op.Yields (Machine.prepareLaunch (Workspace.launchWith [.reference 1])) s (code, b) t ∧
      s.context.atomicsOf [.reference 1] = [7] ∧ s.device.heldAtomics = [1, 2] ∧
      ((Invocation.ofLaunch code b.frame b.atomics b.grid 0).atomicsBytes t.device.memory).toOption =
        some (Bytes.ofInt32s [7, 2]) := by
  have ran : (twoLaunches.session? 0).bind (fun seated =>
      (Op.success? (do
        Machine.startPass
        Machine.runPrefix false none (seated.2.machine.program.scan.entries.take 1)) seated.2).bind fun arrived =>
      (Op.success? (Machine.prepareLaunch (Workspace.launchWith [.reference 1])) arrived.2).map fun launched =>
        (arrived.2.context.atomicsOf [.reference 1], arrived.2.device.heldAtomics,
          ((Invocation.ofLaunch launched.1.1 launched.1.2.frame launched.1.2.atomics launched.1.2.grid 0).atomicsBytes
            launched.2.device.memory).toOption)) = some ([7], [1, 2], some (Bytes.ofInt32s [7, 2])) := by decide +kernel
  obtain ⟨⟨tenant, start⟩, present, ran⟩ := Option.bind_eq_some_iff.1 ran
  obtain ⟨⟨last, s⟩, arrived, ran⟩ := Option.bind_eq_some_iff.1 ran
  obtain ⟨⟨⟨code, b⟩, t⟩, prepared, same⟩ := Option.map_eq_some_iff.1 ran
  simp only [Prod.mk.injEq] at same
  obtain ⟨own, held, found⟩ := same
  have arrives : Machine.Arrives start _ last s := Op.yields_iff_success?.2 arrived
  obtain ⟨steps, used⟩ := Machine.via_arrives Device.survives_traced arrives
    (used_of_reachable twoLaunches_reachable _ (List.mem_of_getElem? (session?_eq_some.1 present).2.2.1))
  exact ⟨s, steps, code, b, t, used, Op.yields_iff_success?.2 prepared, own, held, found⟩

/-- The second value of the first launch stands behind the value of the second one. -/
theorem twoLaunches_entry : ∃ s steps code b t content,
    s.device.Used steps ∧
      Op.Yields (Machine.prepareLaunch (Workspace.launchWith [.reference 1])) s (code, b) t ∧
      (Invocation.ofLaunch code b.frame b.atomics b.grid 0).atomicsBytes t.device.memory = .ok content ∧
      mostAtomics steps = 2 ∧ Kernel.int32s content = [7, 2] := by
  obtain ⟨s, steps, code, b, t, used, ran, own, held, _⟩ := twoLaunches_prepared
  obtain ⟨content, found, values, length, _⟩ := (Machine.entry_atomics used ran).2 (own ▸ nofun)
  rw [show (Workspace.launchWith [.reference 1]).args = [.reference 1] from rfl, own, held] at values
  exact ⟨s, steps, code, b, t, content, used, ran, found, length ▸ congrArg List.length held, values⟩

/-- Behind a larger launch a kernel is not shown its own atomics alone. -/
theorem not_only_own_atomics :
    ¬ ∀ (s : Session) (l : Launch) (steps : List DeviceStep) (code : Binary) (b : Machine.BoundLaunch) (t : Session)
        (content : Bytes), s.device.Used steps → Op.Yields (Machine.prepareLaunch l) s (code, b) t →
      s.context.atomicsOf l.args ≠ [] →
      (Invocation.ofLaunch code b.frame b.atomics b.grid l.offset.toNat).atomicsBytes t.device.memory = .ok content →
        Kernel.int32s content = s.context.atomicsOf l.args := by
  intro exact
  obtain ⟨s, steps, code, b, t, used, ran, own, _, found⟩ := twoLaunches_prepared
  rcases read : (Invocation.ofLaunch code b.frame b.atomics b.grid 0).atomicsBytes t.device.memory with e | content <;>
    rw [read] at found <;> cases found
  have some : s.context.atomicsOf [.reference 1] ≠ [] := by simp [own]
  have same := exact s (Workspace.launchWith [.reference 1]) steps code b t _ used ran some read
  rw [show (Workspace.launchWith [.reference 1]).args = [.reference 1] from rfl, own, Kernel.int32s_ofInt32s] at same
  cases same

end Pool
end Offload
