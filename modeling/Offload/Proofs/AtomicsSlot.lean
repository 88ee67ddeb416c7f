import Offload.Proofs.History

/-! The buffer that a device remembers for atomics. A write of atomics that outgrows it gives it back
before it asks for a larger one. When there is no room for that, the old buffer stays remembered,
although it is gone, and until the next reset no write of atomics succeeds, whatever its size. Nothing
else parts the device from its buffer: the users of the device never get hold of it. -/
namespace Offload

namespace DeviceCommand

/-- The buffers that a command hands out. -/
def lends (d : Device) : DeviceCommand → List DeviceBuffer
  | allocate sizes =>
    match (Device.allocate sizes d).result with
    | .ok buffers => buffers
    | .error _ => []
  | _ => []

/-- Whether, after a command, a larger atomics buffer than the remembered one was asked for in vain
since the last reset. -/
def starves (d : Device) (starved : Prop) : DeviceCommand → Prop
  | reset => False
  | writeAtomics values wait =>
    starved ∨ d.atomics ≠ none ∧ ∃ requested available,
      (Device.writeAtomics values wait d).result = .error (.outOfMemory requested available)
  | _ => starved

end DeviceCommand

namespace Device

variable {d d' : Device} {b : DeviceBuffer} {lent : List DeviceBuffer} {starved : Prop} {size : Nat}

/-- What becomes of a device whose users give back only buffers that it lent them. -/
inductive Served : Device → List DeviceBuffer → Prop → Prop where
  | start (info : DeviceInfo) (deferred : Bool) : Served (create info deferred) [] False
  | step {d : Device} {lent : List DeviceBuffer} {starved : Prop} (served : Served d lent starved)
      (command : DeviceCommand) (own : ∀ b, command = .deallocate b → b ∈ lent) :
      Served (command.run d).state (lent ++ command.lends d) (command.starves d starved)

/-- The device when its atomics buffer is given back. -/
def vacated (d : Device) : Device :=
  match d.atomics with
  | none => d
  | some b =>
    { d with
      memory :=
        { d.memory with
          buffers := d.memory.buffers.erase b.id
          allocated := d.memory.allocated - b.size } }

/-- Atomics of `size` bytes fit in the remembered buffer, or in the memory that is free without it. -/
def Fits (d : Device) (size : Nat) : Prop :=
  (∃ b, d.atomics = some b ∧ size ≤ b.size) ∨ size ≤ d.vacated.memory.available

/-- The remembered buffer is the device's own, and it lives unless the device is starved. -/
structure Sound (d : Device) (lent : List DeviceBuffer) (starved : Prop) : Prop where
  used : ∀ b ∈ lent, b.id < d.memory.nextId
  issued : ∀ b, d.atomics = some b → d.memory.Issued b
  own : ∀ b, d.atomics = some b → ∀ l ∈ lent, l.id ≠ b.id
  live : ∀ b, d.atomics = some b → (d.memory.Live b ↔ ¬ starved)
  had : starved → d.atomics ≠ none

/-! ### Commands that leave the remembered buffer alone -/

/-- The remembered buffer is the same one. -/
def SameSlot (before after : Device) : Prop :=
  after.atomics = before.atomics

instance : Op.Transition SameSlot where
  refl _ := rfl
  trans first second := Eq.trans second first

instance : Tolerates [.renew, .reset] SameSlot where
  change other change := by
    cases change with
    | renew | reset => exact absurd (by decide) other
    | _ => rfl

private theorem sound_create (info : DeviceInfo) (deferred : Bool) :
    Sound (create info deferred) [] False where
  used _ member := nomatch member
  issued _ remembered := nomatch remembered
  own _ remembered := nomatch remembered
  live _ remembered := nomatch remembered
  had := False.elim

private theorem sound_reset (sound : Sound d lent starved) : Sound (reset d).state lent False where
  used := sound.used
  issued _ remembered := nomatch remembered
  own _ remembered := nomatch remembered
  live _ remembered := nomatch remembered
  had := False.elim

private theorem sound_overwrites (sound : Sound d lent starved) (atomics : d'.atomics = d.atomics)
    (overwrites : d.memory.Overwrites d'.memory) : Sound d' lent starved where
  used b member := overwrites.nextId ▸ sound.used b member
  issued b remembered := Memory.issued_later (sound.issued b (atomics ▸ remembered)) overwrites.grows
  own b remembered := sound.own b (atomics ▸ remembered)
  live b remembered := overwrites.live.trans (sound.live b (atomics ▸ remembered))
  had := atomics ▸ sound.had

private theorem sound_works (sound : Sound d lent starved) (works : Works d d') : Sound d' lent starved :=
  sound_overwrites sound works.atomics works.overwrites

private theorem allocate_run (sizes : List Nat) (d : Device) :
    (∃ e, (allocate sizes d).result = .error e ∧ (allocate sizes d).state = d) ∨
      ∃ buffers m, d.memory.allocate sizes = .ok (buffers, m) ∧
        (allocate sizes d).result = .ok buffers ∧
        Works { d with memory := m } (allocate sizes d).state := by
  rcases ran : d.memory.allocate sizes with e | ⟨buffers, m⟩
  · have failed : onMemory (fun m => m.allocate sizes) d = ⟨.error e, d, []⟩ := by
      rw [onMemory_run, ran]
    unfold allocate
    rw [Op.bind_error failed]
    exact .inl ⟨e, rfl, rfl⟩
  · have done : onMemory (fun m => m.allocate sizes) d = ⟨.ok buffers, { d with memory := m }, []⟩ := by
      rw [onMemory_run, ran]
    unfold allocate
    rw [Op.bind_ok done]
    exact .inr ⟨buffers, m, rfl, rfl, works_of_same rfl rfl rfl rfl rfl rfl⟩

/-- New buffers have new ids, so none of them is the remembered one. -/
theorem sound_allocate (sound : Sound d lent starved) (sizes : List Nat) :
    Sound (allocate sizes d).state (lent ++ (DeviceCommand.allocate sizes).lends d) starved := by
  simp only [DeviceCommand.lends]
  rcases allocate_run sizes d with ⟨e, failed, same⟩ | ⟨buffers, m, ran, done, works⟩
  · rw [failed, same]
    simpa using sound
  · rw [done]
    have grows := Memory.grows_allocate ran
    obtain ⟨_, added⟩ := Memory.allocate_ok_iff.1 ran
    have fresh := Memory.addBuffers_fresh d.memory sizes
    have lives := Memory.addBuffers_live d.memory sizes
    have untouched (id : BufferId) (used : id < d.memory.nextId) :=
      Memory.addBuffers_get? d.memory sizes used
    rw [added] at fresh lives untouched
    refine sound_works (d := { d with memory := m }) ⟨?_, ?_, ?_, ?_, sound.had⟩ works
    · intro b member
      rcases List.mem_append.1 member with old | new
      · exact Nat.lt_of_lt_of_le (sound.used b old) grows.nextId
      · exact (lives b new).1
    · intro b remembered
      exact Memory.issued_later (sound.issued b remembered) grows
    · intro b remembered l member
      rcases List.mem_append.1 member with old | new
      · exact sound.own b remembered l old
      · exact Nat.ne_of_gt (Nat.lt_of_lt_of_le (sound.issued b remembered).1 (fresh l new))
    · intro b remembered
      rw [← sound.live b remembered, Memory.live_iff, Memory.live_iff,
        untouched b.id (sound.issued b remembered).1]

/-- Giving back a buffer under another id. -/
theorem sound_free {l : DeviceBuffer} {m : Memory} {freed : Nat} (sound : Sound d lent starved)
    (borrowed : l ∈ lent) (ran : d.memory.free l.id = .ok (freed, m)) :
    Sound { d with memory := m } lent starved := by
  have grows := Memory.grows_free ran
  obtain ⟨held, _, _, rfl⟩ := Memory.free_ok_iff.1 ran
  refine ⟨sound.used, ?_, sound.own, ?_, sound.had⟩
  · intro b remembered
    exact Memory.issued_later (sound.issued b remembered) grows
  · intro b remembered
    rw [← sound.live b remembered, Memory.live_iff, Memory.live_iff]
    simp only [Table.get?_erase, if_neg (sound.own b remembered l borrowed)]

private theorem sound_deallocate {l : DeviceBuffer} (sound : Sound d lent starved) (borrowed : l ∈ lent) :
    Sound (deallocate l d).state lent starved := by
  unfold deallocate
  rcases ran : d.memory.free l.id with e | ⟨freed, m⟩
  · have failed : onMemory (fun m => m.free l.id) d = ⟨.error e, d, []⟩ := by rw [onMemory_run, ran]
    rw [Op.bind_error failed]
    exact sound
  · have done : onMemory (fun m => m.free l.id) d = ⟨.ok freed, { d with memory := m }, []⟩ := by
      rw [onMemory_run, ran]
    rw [Op.bind_ok done]
    exact sound_works (sound_free sound borrowed ran) (works_of_same rfl rfl rfl rfl rfl rfl)

/-! ### Room for atomics -/

/-- A buffer that is large enough is used again, whether it lives or not. -/
theorem atomicsBuffer_kept (remembered : d.atomics = some b) (enough : size ≤ b.size) :
    atomicsBuffer size d = ⟨.ok b, d, []⟩ := by
  unfold atomicsBuffer
  rw [Op.get_bind]
  simp only [remembered, if_pos enough]
  rfl

/-- A buffer that is gone cannot be given back. -/
theorem atomicsBuffer_gone (remembered : d.atomics = some b) (outgrown : ¬ size ≤ b.size)
    (gone : d.memory.buffers.get? b.id = none) :
    atomicsBuffer size d = ⟨.error (.invalidBuffer b.id), d, []⟩ := by
  have failed : onMemory (fun m => m.free b.id) d = ⟨.error (.invalidBuffer b.id), d, []⟩ := by
    rw [onMemory_run, Memory.free, gone]
  unfold atomicsBuffer
  rw [Op.get_bind]
  simp only [remembered, if_neg outgrown]
  rw [Op.bind_error failed]

/-- A buffer that lives and is too small is given back first. -/
theorem atomicsBuffer_outgrown
    (outgrown : ∀ b, d.atomics = some b → ¬ size ≤ b.size ∧ d.memory.Live b) :
    atomicsBuffer size d = newAtomics size d.vacated := by
  unfold atomicsBuffer
  rw [Op.get_bind]
  rcases remembered : d.atomics with _ | b
  · simp only [vacated, remembered]
  obtain ⟨larger, held, found, same⟩ := outgrown b remembered
  have done : onMemory (fun m => m.free b.id) d = ⟨.ok b.size, d.vacated, []⟩ := by
    simp only [onMemory_run, Memory.free, found, vacated, remembered, same]
  simp only [if_neg larger]
  rw [Op.bind_ok done]
  rcases newAtomics size d.vacated with ⟨result, state, log⟩
  rfl

theorem vacated_atomics (d : Device) : d.vacated.atomics = d.atomics := by
  unfold vacated
  split
  · rfl
  · next remembered => exact remembered.symm ▸ rfl

private theorem vacated_events (d : Device) : d.vacated.events = d.events := by
  unfold vacated
  split <;> rfl

theorem vacated_memory (d : Device) : d.vacated.memory.nextId = d.memory.nextId ∧
    d.memory.Grows d.vacated.memory := by
  unfold vacated
  split
  · exact ⟨rfl, Op.Transition.refl _⟩
  · exact ⟨rfl, Memory.grows_erase _ _ _⟩

/-- A device that gave back its atomics buffer and got no other one is starved, if it had one. -/
theorem sound_vacated (sound : Sound d lent starved) : Sound d.vacated lent (d.atomics ≠ none) := by
  obtain ⟨nextId, grows⟩ := vacated_memory d
  refine ⟨?_, ?_, ?_, ?_, fun had => by rwa [vacated_atomics]⟩
  · intro b member
    rw [nextId]
    exact sound.used b member
  · intro b remembered
    rw [vacated_atomics] at remembered
    exact Memory.issued_later (sound.issued b remembered) grows
  · intro b remembered
    rw [vacated_atomics] at remembered
    exact sound.own b remembered
  · intro b remembered
    rw [vacated_atomics] at remembered
    have gone : ¬ d.vacated.memory.Live b := by
      rintro ⟨held, found, _⟩
      simp only [vacated, remembered, Table.get?_erase, if_pos] at found
      cases found
    simp [gone, remembered]

/-- The new buffer is no one else's. -/
theorem sound_remember (sound : Sound d lent starved) (size : Nat) :
    Sound { d with memory := (d.memory.addBuffer size).2, atomics := some ⟨d.memory.nextId, size⟩ }
      lent False := by
  have used : d.memory.nextId < (d.memory.addBuffer size).2.nextId := Nat.lt_succ_self _
  have live : (d.memory.addBuffer size).2.Live ⟨d.memory.nextId, size⟩ :=
    ⟨.zeroed size, by simp [Memory.addBuffer, Table.get?_insert], rfl⟩
  refine ⟨?_, ?_, ?_, ?_, False.elim⟩
  · intro b member
    exact Nat.lt_of_lt_of_le (sound.used b member) (Nat.le_of_lt used)
  · rintro b ⟨⟩
    exact Memory.issued_of_live used live
  · rintro b ⟨⟩ l member
    exact Nat.ne_of_lt (sound.used l member)
  · rintro b ⟨⟩
    simp [live]

private theorem atomics_of_newAtomics (ran : Op.Yields (newAtomics size) d b d') : d'.atomics = some b := by
  rw [Op.Yields, newAtomics_run] at ran
  split at ran
  · cases ran.1
  · obtain ⟨result, rfl⟩ := ran
    cases result
    rfl

/-- The buffer for atomics is the one that is remembered from then on. -/
theorem atomics_of_atomicsBuffer (ran : Op.Yields (atomicsBuffer size) d b d') : d'.atomics = some b := by
  simp only [atomicsBuffer, Op.yields_bind, Op.yields_get] at ran
  obtain ⟨_, _, ⟨rfl, rfl⟩, ran⟩ := ran
  rcases remembered : d.atomics with _ | existing <;> simp only [remembered] at ran
  · exact atomics_of_newAtomics ran
  split at ran
  · obtain ⟨rfl, rfl⟩ := Op.yields_pure.1 ran
    exact remembered
  · obtain ⟨_, _, _, ran⟩ := Op.yields_bind.1 ran
    exact atomics_of_newAtomics ran

/-- Atomics that fit get a buffer of at least their size, and the device is in good order. -/
theorem atomicsBuffer_fits (sound : Sound d lent False) (fits : d.Fits size) :
    ∃ b d', atomicsBuffer size d = ⟨.ok b, d', []⟩ ∧ d'.atomics = some b ∧ size ≤ b.size ∧
      d'.events = d.events ∧ Sound d' lent False := by
  by_cases enough : ∃ b, d.atomics = some b ∧ size ≤ b.size
  · obtain ⟨b, remembered, enough⟩ := enough
    exact ⟨b, d, atomicsBuffer_kept remembered enough, remembered, enough, rfl, sound⟩
  · have room : ¬ d.vacated.memory.available < size := Nat.not_lt.2 (fits.resolve_left enough)
    have outgrown (b : DeviceBuffer) (remembered : d.atomics = some b) :
        ¬ size ≤ b.size ∧ d.memory.Live b :=
      ⟨fun fitting => enough ⟨b, remembered, fitting⟩, (sound.live b remembered).2 not_false⟩
    have ran := newAtomics_run size d.vacated
    rw [if_neg room, ← atomicsBuffer_outgrown outgrown] at ran
    exact ⟨_, _, ran, rfl, Nat.le_refl size, vacated_events d,
      sound_remember (sound_vacated sound) size⟩

/-- Atomics that do not fit cost the device its buffer. -/
theorem atomicsBuffer_refused (sound : Sound d lent False) (short : ¬ d.Fits size) :
    atomicsBuffer size d =
      ⟨.error (.outOfMemory size d.vacated.memory.available), d.vacated, []⟩ := by
  have room : d.vacated.memory.available < size := Nat.not_le.1 fun enough => short (.inr enough)
  have outgrown (b : DeviceBuffer) (remembered : d.atomics = some b) :
      ¬ size ≤ b.size ∧ d.memory.Live b :=
    ⟨fun fitting => short (.inl ⟨b, remembered, fitting⟩), (sound.live b remembered).2 not_false⟩
  rw [atomicsBuffer_outgrown outgrown, newAtomics_run, if_pos room]

/-! ### Writes of atomics -/

/-- A write of atomics once there is room for it. -/
def fill (b : DeviceBuffer) (values : List Int32) (wait : List EventId) :
    DeviceOp (DeviceBuffer × List EventId) := do
  writeBuffer b.id (Bytes.ofWords 4 (values.map fun v => v.toUInt32.toNat))
  let event ← recordEvent .write wait
  count fun c => { c with atomicsWrites := c.atomicsWrites + 1 }
  pure (b, [event])

theorem writeAtomics_eq (values : List Int32) (wait : List EventId) :
    writeAtomics values wait = atomicsBuffer (4 * values.length) >>= fun b => fill b values wait := rfl

theorem works_fill (b : DeviceBuffer) (values : List Int32) (wait : List EventId) :
    Op.Moves (fill b values wait) Works := by
  refine Op.moves_bind (moves_within (only_writeBuffer _ _) (by decide)) fun _ => ?_
  refine Op.moves_bind (moves_within (only_recordEvent _ _) (by decide)) fun _ => ?_
  exact Op.moves_bind (works_count _) fun _ => Op.moves_pure _

/-- Atomics are written to the remembered buffer. -/
theorem atomics_of_writeAtomics {values : List Int32} {wait events : List EventId}
    (ran : Op.Yields (writeAtomics values wait) d (b, events) d') : d'.atomics = some b := by
  rw [writeAtomics_eq] at ran
  obtain ⟨b', after, found, filled⟩ := Op.yields_bind.1 ran
  rw [((works_fill b' values wait).yields filled).atomics, atomics_of_atomicsBuffer found]
  simp only [fill, Op.yields_bind, Op.yields_pure, Prod.mk.injEq] at filled
  obtain ⟨_, _, _, _, _, _, _, _, _, ⟨rfl, _⟩, _⟩ := filled
  rfl

private theorem writeBuffer_live {data : Bytes} (live : d.memory.Live b) (fits : data.length ≤ b.size) :
    ∃ d', writeBuffer b.id data d = ⟨.ok (), d', []⟩ ∧ d'.events = d.events := by
  obtain ⟨held, found, same⟩ := live
  unfold writeBuffer
  rw [onMemory_run, Memory.write, Memory.buffer, found]
  simp only [bind, Except.bind, Buffer.overwrite?, dif_pos (same ▸ fits)]
  exact ⟨_, rfl, rfl⟩

theorem writeBuffer_gone {id : BufferId} {data : Bytes} (gone : d.memory.buffers.get? id = none) :
    writeBuffer id data d = ⟨.error (.invalidBuffer id), d, []⟩ := by
  unfold writeBuffer
  rw [onMemory_run, Memory.write, Memory.buffer, gone]
  rfl

theorem length_atomics (values : List Int32) :
    (Bytes.ofWords 4 (values.map fun v => v.toUInt32.toNat)).length = 4 * values.length := by
  induction values with
  | nil => rfl
  | cons v rest ih =>
    simp only [Bytes.ofWords, List.map_cons, List.flatMap_cons, List.length_append,
      Bytes.length_ofNatLE, List.length_cons] at ih ⊢
    omega

/-- A write that fits succeeds if its wait list is good, and the device stays in good order anyway. -/
theorem writeAtomics_fits (sound : Sound d lent False) {values : List Int32} (wait : List EventId)
    (fits : d.Fits (4 * values.length)) :
    Sound (writeAtomics values wait d).state lent False ∧
      (writeAtomics values wait d).result.map (fun _ => ()) = d.events.checkAll wait := by
  obtain ⟨b, d', ran, remembered, enough, events, sound'⟩ := atomicsBuffer_fits sound fits
  have live := (sound'.live b remembered).2 not_false
  obtain ⟨d'', wrote, events'⟩ := writeBuffer_live live (length_atomics values ▸ enough)
  have works : Works d' (writeAtomics values wait d).state := by
    rw [writeAtomics_eq, Op.bind_ok ran]
    exact works_fill b values wait d'
  refine ⟨sound_works sound' works, ?_⟩
  unfold writeAtomics
  rw [Op.bind_ok ran, Op.bind_ok wrote, Op.bind_run]
  simp only [recordEvent, onEvents, Op.step, EventTable.record, events', events]
  rcases d.events.checkAll wait with e | _ <;> rfl

/-- A write that does not fit finds no memory. -/
theorem writeAtomics_refused (sound : Sound d lent False) {values : List Int32} (wait : List EventId)
    (short : ¬ d.Fits (4 * values.length)) :
    writeAtomics values wait d =
      ⟨.error (.outOfMemory (4 * values.length) d.vacated.memory.available), d.vacated, []⟩ := by
  unfold writeAtomics
  rw [Op.bind_error (atomicsBuffer_refused sound short)]

/-- On a starved device nothing is written, whether it fits in the remembered buffer or not. -/
theorem writeAtomics_starved (sound : Sound d lent starved) (starves : starved)
    (remembered : d.atomics = some b) (values : List Int32) (wait : List EventId) :
    writeAtomics values wait d = ⟨.error (.invalidBuffer b.id), d, []⟩ := by
  have gone : d.memory.buffers.get? b.id = none := by
    rcases found : d.memory.buffers.get? b.id with _ | held
    · rfl
    · have live : d.memory.Live b := ⟨held, found, (sound.issued b remembered).2 held found⟩
      exact absurd starves ((sound.live b remembered).1 live)
  unfold writeAtomics
  by_cases enough : 4 * values.length ≤ b.size
  · rw [Op.bind_ok (atomicsBuffer_kept remembered enough), Op.bind_error (writeBuffer_gone gone)]
    rfl
  · rw [Op.bind_error (atomicsBuffer_gone remembered enough gone)]

private theorem checkAll_error {t : EventTable} {wait : List EventId} {e : DeviceError}
    (refused : t.checkAll wait = .error e) : ∃ id, e = .invalidEvent id := by
  induction wait with
  | nil => cases refused
  | cons id rest ih =>
    simp only [EventTable.checkAll, EventTable.lookup] at refused
    split at refused
    · next lookup =>
      split at lookup
      · cases lookup
      · split at lookup <;> cases lookup
        cases refused
        exact ⟨id, rfl⟩
    · exact ih refused

private theorem sound_writeAtomics (sound : Sound d lent starved) (values : List Int32)
    (wait : List EventId) : Sound (writeAtomics values wait d).state lent
      ((DeviceCommand.writeAtomics values wait).starves d starved) := by
  simp only [DeviceCommand.starves]
  by_cases starves : starved
  · obtain ⟨b, remembered⟩ := Option.ne_none_iff_exists'.1 (sound.had starves)
    rw [writeAtomics_starved sound starves remembered]
    simpa [starves] using sound
  simp only [starves, false_or] at sound ⊢
  by_cases fits : d.Fits (4 * values.length)
  · obtain ⟨sound', result⟩ := writeAtomics_fits sound wait fits
    have served : ¬ ∃ requested available,
        (writeAtomics values wait d).result = .error (.outOfMemory requested available) := by
      rintro ⟨requested, available, refused⟩
      rw [refused] at result
      obtain ⟨id, other⟩ := checkAll_error result.symm
      cases other
    simpa only [served, and_false] using sound'
  · rw [writeAtomics_refused sound wait fits]
    simpa using sound_vacated sound

/-! ### Histories -/

private theorem sound_command (sound : Sound d lent starved) (command : DeviceCommand)
    (own : ∀ b, command = .deallocate b → b ∈ lent) :
    Sound (command.run d).state (lent ++ command.lends d) (command.starves d starved) := by
  have quiet (works : Works d (command.run d).state) : Sound (command.run d).state (lent ++ []) starved := by
    rw [List.append_nil]
    exact sound_works sound works
  cases command with
  | reset =>
    show Sound (reset d).state (lent ++ []) False
    rw [List.append_nil]
    exact sound_reset sound
  | allocate sizes =>
    rw [DeviceCommand.run, Op.map_state]
    exact sound_allocate sound sizes
  | deallocate b =>
    rw [DeviceCommand.run, Op.map_state]
    show Sound (deallocate b d).state (lent ++ []) starved
    rw [List.append_nil]
    exact sound_deallocate sound (own b rfl)
  | writeAtomics values wait =>
    rw [DeviceCommand.run, Op.map_state]
    show Sound (writeAtomics values wait d).state (lent ++ []) _
    rw [List.append_nil]
    exact sound_writeAtomics sound values wait
  | registerKernel name kernel =>
    show Sound (d.registerKernel name kernel) (lent ++ []) starved
    rw [List.append_nil]
    exact sound_overwrites sound rfl (Op.Transition.refl _)
  | failCompilationOf name =>
    show Sound (d.failCompilationOf name) (lent ++ []) starved
    rw [List.append_nil]
    exact sound_overwrites sound rfl (Op.Transition.refl _)
  | _ => exact quiet (DeviceCommand.within _ (by simp) d)

private theorem sound_of_served (served : Served d lent starved) : Sound d lent starved := by
  induction served with
  | start info deferred => exact sound_create info deferred
  | step _ command own ih => exact sound_command ih command own

/-- The remembered buffer lives exactly on a device that is not starved. Such a device writes atomics
that fit, and it never finds its buffer gone; a starved one writes none at all. -/
theorem atomics_live_iff (served : Served d lent starved) :
    (∀ b, d.atomics = some b → (d.memory.Live b ↔ ¬ starved)) ∧
      (¬ starved → ∀ values wait,
        ((∃ written, (writeAtomics values wait d).result = .ok written) ↔
          d.Fits (4 * values.length) ∧ d.events.checkAll wait = .ok ()) ∧
        ∀ id, (writeAtomics values wait d).result ≠ .error (.invalidBuffer id)) ∧
      (starved → ∃ b, d.atomics = some b ∧ ∀ values wait,
        writeAtomics values wait d = ⟨.error (.invalidBuffer b.id), d, []⟩) := by
  have sound := sound_of_served served
  refine ⟨sound.live, ?_, ?_⟩
  · intro fed values wait
    simp only [fed] at sound
    by_cases fits : d.Fits (4 * values.length)
    · have result := (writeAtomics_fits sound wait fits).2
      rcases written : (writeAtomics values wait d).result with e | answer <;> rw [written] at result
      · obtain ⟨id, rfl⟩ := checkAll_error result.symm
        simp [← result, Except.map]
      · simp [fits, ← result, Except.map]
    · simp [writeAtomics_refused sound wait fits, fits]
  · intro starves
    obtain ⟨b, remembered⟩ := Option.ne_none_iff_exists'.1 (sound.had starves)
    exact ⟨b, remembered, writeAtomics_starved sound starves remembered⟩

/-- A device of 8 bytes that was asked for one word of atomics and then for three. -/
def outgrown : Device :=
  let start := create { globalMemory := 8 } false
  let small := ((DeviceCommand.writeAtomics [1] []).run start).state
  ((DeviceCommand.writeAtomics [1, 2, 3] []).run small).state

private theorem outgrown_served : ∃ starved, Served outgrown [] starved ∧ starved := by
  refine ⟨_, .step (.step (.start { globalMemory := 8 } false) (.writeAtomics [1] []) nofun)
    (.writeAtomics [1, 2, 3] []) nofun, ?_⟩
  exact .inr ⟨by decide, 12, 8, rfl⟩

/-- It refuses a word of atomics now, for which there is room. -/
theorem outgrown_refuses : outgrown.Fits 4 ∧
    writeAtomics [1] [] outgrown = ⟨.error (.invalidBuffer 1), outgrown, []⟩ := by
  obtain ⟨starved, served, starves⟩ := outgrown_served
  obtain ⟨b, remembered, refused⟩ := (atomics_live_iff served).2.2 starves
  cases remembered
  exact ⟨.inl ⟨_, rfl, Nat.le_refl 4⟩, refused [1] []⟩

/-- So a buffer that is remembered does not always live. -/
theorem atomics_not_always_live : ¬ ∀ (d : Device) (lent : List DeviceBuffer) (starved : Prop),
    Served d lent starved → ∀ b, d.atomics = some b → d.memory.Live b := by
  intro claim
  obtain ⟨starved, served, _⟩ := outgrown_served
  obtain ⟨held, found, _⟩ := claim _ _ _ served ⟨1, 4⟩ rfl
  cases found

end Device
end Offload
