import Offload.Code.Assembly
import Offload.Proofs.Chronicles
import Offload.Proofs.Copies
import Offload.Proofs.Release

/-! What a buffer has received. An object is marked exactly when the buffer that it is bound to has
received the whole of it since it was bound, so that over all passes a copy that is asked for once is made
once into every buffer; and whatever takes the buffer away has the next such copy made again. -/
namespace Offload

open Machine (bufferOf contentOf copiesIn TakesNone Idle Delivers MadeOrFailed transferIn)

/-- The copy to the device that an instruction is, and whether it is asked for once. -/
def Instruction.copyIn? : Instruction → Option (Transfer × Bool)
  | .transfer .inOnce t => some (t, true)
  | .transfer .inAlways t => some (t, false)
  | _ => none

namespace Moment

/-- The copy to the device that was asked for. -/
def copyIn? (m : Moment) : Option (Transfer × Bool) :=
  match m.command with
  | .perform false _ index =>
    (m.before.machine.program.scan.entries[index]?).bind fun entry => entry.instruction.copyIn?
  | _ => none

/-- A copy of the whole object into its buffer, and it was made. -/
structure Copies (m : Moment) (object : Nat) (b : DeviceBuffer) (once : Bool) : Prop where
  asked : ∃ t, m.copyIn? = some (t, once) ∧ t.object.toNat = object ∧ t.batchSize = 0
  into : bufferOf m.before object = some b
  made : copiesIn m.after = copiesIn m.before + 1

/-- The buffer has received the whole object since the object was bound to it. -/
def Filled (object : Nat) (b : DeviceBuffer) : List Moment → Prop
  | [] => False
  | m :: past => (∃ once, m.Copies object b once) ∨ bufferOf m.before object = some b ∧ Filled object b past

end Moment

open Moment (Filled)

namespace Machine

variable {s t u : Session} {object : Nat}

/-! ### Losses and gains -/

/-- Bindings are kept or lost. -/
def Sheds (s t : Session) : Prop :=
  ∀ object, t.machine.bindings.entries[object]? = s.machine.bindings.entries[object]? ∨
    contentOf t object = false ∧ bufferOf t object = none

private theorem contentOf_congr (same : t.machine.bindings.entries[object]? = s.machine.bindings.entries[object]?) :
    contentOf t object = contentOf s object := by
  rw [contentOf, same, contentOf]

private theorem bufferOf_congr (same : t.machine.bindings.entries[object]? = s.machine.bindings.entries[object]?) :
    bufferOf t object = bufferOf s object := by
  rw [bufferOf, Bindings.buffer?, same, bufferOf, Bindings.buffer?]

instance : Op.Transition Sheds where
  refl _ := fun _ => .inl rfl
  trans first second := by
    intro object
    rcases second object with same | lost
    · rcases first object with same' | ⟨unmarked, unbound⟩
      · exact .inl (same.trans same')
      · exact .inr ⟨(contentOf_congr same).trans unmarked, (bufferOf_congr same).trans unbound⟩
    · exact .inr lost

private theorem Sheds.unmarked (sheds : Sheds s t) (unmarked : contentOf s object = false) :
    contentOf t object = false := by
  rcases sheds object with same | lost
  · exact (contentOf_congr same).trans unmarked
  · exact lost.1

private theorem unbound_of_unbind
    (unbound : t.machine.bindings.entries[object]? = (s.machine.bindings.entries[object]?).map Binding.unbind) :
    contentOf t object = false ∧ bufferOf t object = none := by
  rw [contentOf, bufferOf, Bindings.buffer?, unbound]
  rcases s.machine.bindings.entries[object]? with _ | binding <;> exact ⟨rfl, rfl⟩

/-- A release of a bound object takes its buffer away, and nothing else. -/
theorem dealloc_cases {freed : Nat} (ran : Op.Yields (dealloc object) s freed t) (other : Nat) :
    t.machine.bindings.entries[other]? = s.machine.bindings.entries[other]? ∧
        (other = object → bufferOf s object = none) ∨
      contentOf t other = false ∧ bufferOf t other = none := by
  obtain ⟨_, binding, _, found, ⟨unbound, _, rfl⟩ | ⟨_, _, _, _, rfl⟩⟩ := yields_dealloc.1 ran
  · refine .inl ⟨rfl, ?_⟩
    rintro rfl
    exact (Bindings.buffer?_of_get found).trans unbound
  · by_cases same : object = other
    · exact .inr (unbound_of_unbind (s := s) (by rw [Bindings.entries_modify, if_pos same]))
    · refine .inl ⟨by rw [Bindings.entries_modify, if_neg same], fun this => absurd this.symm same⟩

private theorem sheds_dealloc (object : Nat) : Op.Moves (dealloc object) Sheds := by
  intro s
  rcases ran : (dealloc object s).result with e | freed
  · rw [refuses_dealloc object s e ran]
    exact Op.Transition.refl s
  · intro other
    exact (dealloc_cases ⟨ran, rfl⟩ other).imp And.left id

private theorem withstandsLoss_sheds : Session.WithstandsLoss Sheds where
  still s t same := fun _ => .inl (by rw [same.bindings])
  dealloc := sheds_dealloc
  forget s := fun _ => .inr (unbound_of_unbind (s := s) (List.getElem?_map ..))

private theorem sheds_setConfig (config : Config) : Op.Moves (setConfig config) Sheds := by
  refine Op.moves_bind (Op.moves_modify fun s object => .inl ?_) fun _ => ?_
  · dsimp only
    split <;> rfl
  cases config.memoryLimit with
  | none => exact Op.moves_pure _
  | some limit => exact Op.moves_modify fun _ _ => .inl rfl

/-- Each object keeps its binding, or what it has instead is unmarked and new. -/
def Rebinds (s t : Session) : Prop :=
  ∀ object, t.machine.bindings.entries[object]? = s.machine.bindings.entries[object]? ∨
    contentOf t object = false ∧ ∀ b, bufferOf t object = some b →
      s.device.memory.nextId ≤ b.id ∧ t.device.memory.Issued b

private theorem Sheds.rebinds (sheds : Sheds s t) : Rebinds s t := by
  intro object
  rcases sheds object with same | ⟨unmarked, unbound⟩
  · exact .inl same
  · refine .inr ⟨unmarked, fun b bound => ?_⟩
    rw [unbound] at bound
    cases bound

/-- An entry is left alone, or bound anew, by the last of the requests for it. -/
theorem bindRequests_cases (bs : Bindings) (pairs : List (BufferRequest × DeviceBuffer)) (object : Nat) :
    (bindRequests bs pairs).entries[object]? = bs.entries[object]? ∨
      ∃ old pair, pair ∈ pairs ∧ (bindRequests bs pairs).entries[object]? = some (Binding.bind old pair.2) := by
  induction pairs generalizing bs with
  | nil => exact .inl rfl
  | cons pair rest ih =>
    rcases ih (bs.modify pair.1.object fun b => b.bind pair.2) with same | ⟨old, later, member, bound⟩
    · rw [bindRequests, same, Bindings.entries_modify]
      split
      · rcases bs.entries[object]? with _ | old
        · exact .inl rfl
        · exact .inr ⟨old, pair, by simp, rfl⟩
      · exact .inl rfl
    · exact .inr ⟨old, later, by simp [member], bound⟩

private theorem rebinds_alloc (batchSize : Nat) (objects : List UInt32) :
    Op.Moves (alloc batchSize objects) Rebinds := by
  intro s
  rcases ran : (alloc batchSize objects s).result with e | u
  · rw [refuses_alloc batchSize objects s e ran]
    exact fun _ => .inl rfl
  obtain ⟨requests, _, ⟨_, same⟩ | ⟨buffers, allocated, _, bindings⟩⟩ := alloc_binds ⟨ran, rfl⟩
  · rw [same]
    exact fun _ => .inl rfl
  intro object
  rw [bindings]
  rcases bindRequests_cases s.machine.bindings (requests.zip buffers) object with same | ⟨old, pair, member, bound⟩
  · exact .inl same
  have given := (List.of_mem_zip member).2
  refine .inr ⟨?_, fun b held => ?_⟩
  · rw [contentOf, bindings, bound]
    rfl
  · rw [bufferOf, Bindings.buffer?, bindings, bound] at held
    cases held
    have fresh := Memory.addBuffers_fresh s.device.memory (requests.map BufferRequest.size)
    rw [(Memory.allocate_ok_iff.1 allocated).2] at fresh
    exact ⟨fresh _ given, allocate_issued allocated _ given⟩

end Machine

/-! ### One thing after another -/

open Machine (Sheds Rebinds contentOf_congr bufferOf_congr)

namespace Moment

variable {m : Moment} {object : Nat} {b : DeviceBuffer} {t : Transfer} {once : Bool}

/-- The copy that was asked for is what happened. -/
theorem after_of_copyIn (asked : m.copyIn? = some (t, once)) : m.after = (transferIn t once m.before).state := by
  obtain ⟨s, command⟩ := m
  unfold copyIn? at asked
  split at asked
  · next last index performed =>
    obtain ⟨⟨offset, i⟩, found, copies⟩ := Option.bind_eq_some_iff.1 asked
    cases performed
    show (MachineCommand.performEntry false last s.machine.program.scan.entries[index]? s).state = _
    rw [found, MachineCommand.performEntry, Op.map_state]
    unfold Instruction.copyIn? at copies
    split at copies <;> cases copies
    all_goals
      dsimp only at *
      subst i
      exact Op.map_state _ _ _
  · cases asked

/-- Whatever is no copy to the device leaves each binding alone, or replaces it. -/
theorem rebinds_of_noCopy (m : Moment) (single : m.command.Single) (none : m.copyIn? = none) :
    Rebinds m.before m.after := by
  obtain ⟨s, command⟩ := m
  by_cases performs : ∃ warm last index, command = .perform warm last index
  · obtain ⟨warm, last, index, rfl⟩ := performs
    show Rebinds s (MachineCommand.performEntry warm last s.machine.program.scan.entries[index]? s).state
    rcases found : s.machine.program.scan.entries[index]? with _ | entry
    · exact fun _ => .inl rfl
    rw [MachineCommand.performEntry, Op.map_state]
    cases warm with
    | true => exact (Machine.withstandsLoss_sheds.warmEntry last entry s).rebinds
    | false =>
      have uncopied : entry.instruction.copyIn? = Option.none := by
        simpa only [copyIn?, found, Option.bind_some] using none
      by_cases allocates : ∃ batchSize objects, entry.instruction = .alloc batchSize objects
      · obtain ⟨batchSize, objects, same⟩ := allocates
        have allocated := Machine.rebinds_alloc batchSize.toNat objects s
        obtain ⟨offset, i⟩ := entry
        cases same
        rwa [← Op.map_state (fun _ => (Option.none : Option EventId))] at allocated
      · refine (Machine.withstandsLoss_sheds.instruction last entry ?_ ?_ s).rebinds
        · exact fun batchSize objects same => absurd ⟨batchSize, objects, same⟩ allocates
        · rintro kind operands same (rfl | rfl) <;> rw [same] at uncopied <;> cases uncopied
  · refine (Machine.withstandsLoss_sheds.command command ?_ ?_ ?_ s).rebinds
    · exact fun config _ => Machine.sheds_setConfig config
    · rintro mode (rfl | rfl) <;> cases single
    · exact fun warm last index same => absurd ⟨warm, last, index, same⟩ performs

/-- What becomes of the binding of an object. -/
inductive Fate (m : Moment) (object : Nat) : Prop where
  | fills {b : DeviceBuffer} {once : Bool} (copies : m.Copies object b once) (bound : bufferOf m.after object = some b)
      (marked : contentOf m.after object = true)
  | keeps (none : ∀ b once, ¬ m.Copies object b once)
      (same : m.after.machine.bindings.entries[object]? = m.before.machine.bindings.entries[object]?)
  | renews (none : ∀ b once, ¬ m.Copies object b once) (unmarked : contentOf m.after object = false)
      (new : ∀ b, bufferOf m.after object = some b →
        m.before.device.memory.nextId ≤ b.id ∧ m.after.device.memory.Issued b)

theorem fate (m : Moment) (single : m.command.Single) (object : Nat) : m.Fate object := by
  rcases asked : m.copyIn? with _ | ⟨t, once⟩
  · have none : ∀ b once, ¬ m.Copies object b once := by
      rintro b once ⟨⟨t, asked', _⟩, _, _⟩
      rw [asked] at asked'
      cases asked'
    rcases rebinds_of_noCopy m single asked object with same | ⟨unmarked, new⟩
    · exact .keeps none same
    · exact .renews none unmarked new
  have after := after_of_copyIn asked
  rcases Machine.transferIn_cases t once m.before with ⟨⟨b, bound⟩, delivers⟩ | idle
  · rw [← after] at delivers
    by_cases whole : t.batchSize = 0 ∧ t.object.toNat = object
    · obtain ⟨batchless, rfl⟩ := whole
      have bindings := delivers.bindings
      rw [if_pos batchless] at bindings
      refine .fills ⟨⟨t, asked, rfl, batchless⟩, bound, delivers.copies⟩ ?_ ?_
      · have same : ∀ b : Binding, (b.setContent true).buffer = b.buffer := fun _ => rfl
        rw [bufferOf, bindings, Bindings.buffer?_modify_same same]
        exact bound
      · obtain ⟨binding, found, _⟩ := Option.bind_eq_some_iff.1 bound
        rw [contentOf, bindings, Bindings.entries_modify, if_pos rfl, found]
        rfl
    · refine .keeps ?_ ?_
      · rintro b once ⟨⟨t', asked', object', batchless⟩, _, _⟩
        rw [asked] at asked'
        cases asked'
        exact whole ⟨batchless, object'⟩
      · rw [delivers.bindings]
        split
        · next batchless =>
          rw [Bindings.entries_modify, if_neg fun same => whole ⟨batchless, same⟩]
        · rfl
  · rw [← after] at idle
    refine .keeps ?_ (by rw [idle.bindings])
    rintro b once ⟨_, _, made⟩
    rw [idle.copies] at made
    omega

/-- A buffer that an object is bound to was its buffer before, or is a new one. -/
theorem Fate.buffer (fate : m.Fate object) (bound : bufferOf m.after object = some b) :
    bufferOf m.before object = some b ∨
      m.before.device.memory.nextId ≤ b.id ∧ m.after.device.memory.Issued b := by
  cases fate with
  | fills copies bound' _ =>
    rw [bound'] at bound
    cases bound
    exact .inl copies.into
  | keeps _ same => exact .inl ((bufferOf_congr same).symm.trans bound)
  | renews _ _ new => exact .inr (new b bound)

end Moment

namespace Session

variable {start s t : Session} {past since : List Moment} {object : Nat} {b : DeviceBuffer} {once : Bool}

theorem grows_command (command : MachineCommand) (s : Session) :
    s.device.memory.Grows (command.run s).state.device.memory :=
  (continues_command command s).device.memory

/-- Every buffer that is bound along a life was handed out by the device. -/
theorem lives_issued (lives : Lives past s) : s.machine.bindings.IssuedBy s.device.memory := by
  obtain ⟨m, site, config, fresh, leads⟩ := lives
  induction leads with
  | here =>
    refine Bindings.issuedBy_of_unbound fun object => ?_
    show m.bindings.buffer? object = none
    rw [fresh.bindings, Bindings.buffer?_ofContext]
  | @work past s _ command single issued =>
    intro object b bound
    rcases (Moment.fate ⟨s, command⟩ single object).buffer bound with before | new
    · exact Memory.issued_later (issued object b before) (grows_command command s)
    · exact new.2
  | elsewhere _ context device grows issued => exact Bindings.issuedBy_later issued grows

/-- An object is marked exactly when its buffer has received the whole of it since it was bound. -/
theorem content_iff (lives : Lives past s) (object : Nat) :
    contentOf s object = true ↔ ∃ b, bufferOf s object = some b ∧ Filled object b past := by
  obtain ⟨m, site, config, fresh, leads⟩ := lives
  induction leads with
  | here =>
    have unmarked : contentOf ⟨site.1, site.2, m⟩ object = false := by
      show (m.bindings.entries[object]?).any Binding.hasContent = false
      rw [fresh.bindings, Bindings.ofContext, List.getElem?_map]
      rcases site.1.objects[object]? with _ | entry <;> rfl
    simp [unmarked, Filled]
  | @work past s leads command single marks =>
    cases Moment.fate ⟨s, command⟩ single object with
    | fills copies bound marked => exact iff_of_true marked ⟨_, bound, .inl ⟨_, copies⟩⟩
    | keeps none same =>
      have content := contentOf_congr same
      have buffer := bufferOf_congr same
      change contentOf (command.run s).state object = contentOf s object at content
      change bufferOf (command.run s).state object = bufferOf s object at buffer
      rw [content, buffer, marks]
      constructor
      · rintro ⟨b, bound, filled⟩
        exact ⟨b, bound, .inr ⟨bound, filled⟩⟩
      · rintro ⟨b, bound, ⟨once, copies⟩ | ⟨_, filled⟩⟩
        · exact absurd copies (none b once)
        · exact ⟨b, bound, filled⟩
    | renews none unmarked new =>
      refine iff_of_false (by rw [show contentOf (command.run s).state object = false from unmarked]; simp) ?_
      rintro ⟨b, bound, ⟨once, copies⟩ | ⟨before, _⟩⟩
      · exact none b once copies
      · have issued := lives_issued ⟨m, site, config, fresh, leads⟩ object b before
        exact absurd issued.1 (Nat.not_lt.2 (new b bound).1)
  | elsewhere _ context device grows marks => exact marks

/-- The buffer of a copy was handed out by the device. -/
theorem issued_of_copies (lives : Lives past s) {m : Moment} (member : m ∈ past) (copies : m.Copies object b once) :
    b.id < s.device.memory.nextId := by
  obtain ⟨m', site, config, fresh, leads⟩ := lives
  induction leads with
  | here => cases member
  | @work past s leads command single used =>
    refine Nat.lt_of_lt_of_le ?_ (grows_command command s).nextId
    rcases List.mem_cons.1 member with rfl | earlier
    · exact (lives_issued ⟨m', site, config, fresh, leads⟩ object b copies.into).1
    · exact used earlier
  | elsewhere _ context device grows used => exact Nat.lt_of_lt_of_le (used member) grows.nextId

/-- No buffer is bound to an object a second time. -/
theorem filled_of_copies (lives : Lives past s) {m : Moment} (member : m ∈ past) (copies : m.Copies object b once)
    (bound : bufferOf s object = some b) : Filled object b past := by
  obtain ⟨m', site, config, fresh, leads⟩ := lives
  induction leads with
  | here => cases member
  | @work past s leads command single filled =>
    rcases List.mem_cons.1 member with rfl | earlier
    · exact .inl ⟨once, copies⟩
    rcases (Moment.fate ⟨s, command⟩ single object).buffer bound with before | new
    · exact .inr ⟨before, filled earlier before⟩
    · have issued := issued_of_copies ⟨m', site, config, fresh, leads⟩ earlier copies
      exact absurd issued (Nat.not_lt.2 new.1)
  | elsewhere _ context device grows filled => exact filled member bound

private theorem copies_of_filled (filled : Filled object b past) : ∃ m ∈ past, ∃ once, m.Copies object b once := by
  induction past with
  | nil => cases filled
  | cons m past ih =>
    rcases filled with copies | ⟨_, earlier⟩
    · exact ⟨m, by simp, copies⟩
    · obtain ⟨m', member, copies⟩ := ih earlier
      exact ⟨m', by simp [member], copies⟩

/-! ### After a loss -/

/-- What takes the buffer of an object away: its release, a release of everything, the loss of all buffers,
and a reset of the device that the start of a pass notices. -/
inductive Loses (object : Nat) (s t : Session) : Prop where
  | dealloc {freed : Nat} (ran : Op.Yields (Machine.dealloc object) s freed t)
  | free {freed : Nat} (ran : Op.Yields Machine.freeDeviceMemory s freed t)
  | forget {bytes : Nat} (ran : Op.Yields Machine.forgetBuffers s bytes t)
  | reset (reset : s.device.epoch ≠ s.machine.epoch) (ran : Op.Yields Machine.startPass s () t)

/-- Only bound objects are marked. -/
def Coherent (s : Session) : Prop :=
  ∀ object, bufferOf s object = none → contentOf s object = false

private theorem coherent_of_lives (lives : Lives past s) : Coherent s := by
  intro object unbound
  rw [← Bool.not_eq_true, content_iff lives]
  rintro ⟨b, bound, _⟩
  rw [unbound] at bound
  cases bound

private theorem coherent_sheds (coherent : Coherent s) (sheds : Sheds s t) : Coherent t := by
  intro object unbound
  rcases sheds object with same | lost
  · rw [contentOf_congr same]
    exact coherent object ((bufferOf_congr same).symm.trans unbound)
  · exact lost.1

private theorem unmarked_of_dealloc {freed : Nat} (coherent : Coherent s)
    (ran : Op.Yields (Machine.dealloc object) s freed t) : contentOf t object = false := by
  rcases Machine.dealloc_cases ran object with ⟨same, unbound⟩ | lost
  · rw [contentOf_congr same]
    exact coherent object (unbound rfl)
  · exact lost.1

private theorem unmarked_of_deallocAll {objects : List Nat} {freed : Nat} (coherent : Coherent s)
    (ran : Op.Yields (Machine.deallocAll objects) s freed t) (listed : object ∈ objects) :
    contentOf t object = false := by
  induction objects generalizing s freed with
  | nil => cases listed
  | cons first rest ih =>
    simp only [Machine.deallocAll, Op.yields_bind, Op.yields_pure] at ran
    obtain ⟨one, middle, released, others, _, all, _, rfl⟩ := ran
    rcases List.mem_cons.1 listed with rfl | later
    · have sheds := (Machine.moves_deallocAll Machine.withstandsLoss_sheds.dealloc rest).yields all
      exact sheds.unmarked (unmarked_of_dealloc coherent released)
    · exact ih (coherent_sheds coherent ((Machine.sheds_dealloc first).yields released)) all later

private theorem bound_of_buffer? {bs : Bindings} (bound : bs.buffer? object = some b) :
    object ∈ bs.bound.map (·.1) := by
  obtain ⟨binding, found, held⟩ := Option.bind_eq_some_iff.1 bound
  refine List.mem_map.2 ⟨(object, b), List.mem_filterMap.2 ⟨(binding, object), ?_, ?_⟩, rfl⟩
  · exact List.mem_zipIdx_iff_getElem?.2 found
  · show binding.buffer.map (object, ·) = some (object, b)
    rw [held]
    rfl

private theorem Loses.unmarked (loses : Loses object s t) (coherent : Coherent s) : contentOf t object = false := by
  cases loses with
  | dealloc ran => exact unmarked_of_dealloc coherent ran
  | free ran =>
    simp only [Machine.freeDeviceMemory, Op.yields_bind, Op.yields_get] at ran
    obtain ⟨_, _, ⟨rfl, rfl⟩, ran⟩ := ran
    rcases bound : bufferOf s object with _ | b
    · have sheds := (Machine.moves_deallocAll Machine.withstandsLoss_sheds.dealloc _).yields ran
      exact sheds.unmarked (coherent object bound)
    · exact unmarked_of_deallocAll coherent ran (bound_of_buffer? bound)
  | forget ran =>
    rw [← ran.2]
    exact (Machine.unbound_of_unbind (s := s) (List.getElem?_map ..)).1
  | reset reset ran =>
    simp only [Machine.startPass, Session.modifyMachine, Op.yields_bind, Op.yields_modify] at ran
    obtain ⟨_, _, rfl, synced⟩ := ran
    rcases Machine.yields_syncEpoch.1 synced with ⟨current, _⟩ | ⟨_, _, rfl⟩
    · exact absurd current reset
    · exact (Machine.unbound_of_unbind (s := s) (List.getElem?_map ..)).1

/-- Without a copy of the whole object nothing marks it. -/
theorem unmarked_of_leads (leads : Leads start since s) (unmarked : contentOf start object = false)
    (none : ∀ m ∈ since, ∀ b once, ¬ m.Copies object b once) : contentOf s object = false := by
  induction leads with
  | here => exact unmarked
  | @work past s leads command single kept =>
    have before := kept fun m member => none m (by simp [member])
    cases Moment.fate ⟨s, command⟩ single object with
    | fills copies _ _ => exact absurd copies (none _ (by simp) _ _)
    | keeps _ same => exact (contentOf_congr same).trans before
    | renews _ unmarked _ => exact unmarked
  | elsewhere _ context device grows kept => exact kept none

/-! ### The copies of a life -/

/-- A copy of the whole object that is asked for once is the first one into its buffer. -/
theorem first_of_lives (lives : Lives past s) :
    past.Pairwise fun newer older => ∀ object b once, newer.Copies object b true →
      ¬ older.Copies object b once := by
  obtain ⟨m, site, config, fresh, leads⟩ := lives
  induction leads with
  | here => exact List.Pairwise.nil
  | @work past s leads command single first =>
    refine List.pairwise_cons.2 ⟨?_, first⟩
    intro older member object b once copies earlier
    have lives : Lives past s := ⟨m, site, config, fresh, leads⟩
    have filled := filled_of_copies lives member earlier copies.into
    have marked := (content_iff lives object).2 ⟨b, copies.into, filled⟩
    obtain ⟨t, asked, rfl, whole⟩ := copies.asked
    have idle := Machine.transferIn_leftOut whole marked
    have made := copies.made
    rw [Moment.after_of_copyIn asked] at made
    exact absurd (made.symm.trans idle.copies) (Nat.succ_ne_self _)
  | elsewhere _ context device grows first => exact first

/-- What the life of a machine says about its copies to the device, and about the next ones. -/
structure Chronicled (past : List Moment) (s : Session) : Prop where
  /-- An object is marked exactly when its buffer has received the whole of it since it was bound. -/
  content : ∀ object, contentOf s object = true ↔ ∃ b, bufferOf s object = some b ∧ Filled object b past
  /-- No buffer is bound a second time, so that is when it has ever received the whole object. -/
  ever : ∀ object b, bufferOf s object = some b →
    (Filled object b past ↔ ∃ m ∈ past, ∃ once, m.Copies object b once)
  /-- Of the copies of a whole object into one buffer only the first one is asked for once. -/
  first : past.Pairwise fun newer older => ∀ object b once, newer.Copies object b true →
    ¬ older.Copies object b once
  leftOut : ∀ t b, t.batchSize = 0 → bufferOf s t.object.toNat = some b → Filled t.object.toNat b past →
    Idle s (transferIn t true s).state
  made : ∀ t b, ¬ TakesNone s t.object.toNat → bufferOf s t.object.toNat = some b →
    ¬ Filled t.object.toNat b past → MadeOrFailed t s (transferIn t true s)
  always : ∀ t, ¬ TakesNone s t.object.toNat → MadeOrFailed t s (transferIn t false s)
  batched : ∀ t, t.batchSize ≠ 0 → ¬ TakesNone s t.object.toNat → MadeOrFailed t s (transferIn t true s)
  /-- Once the buffer has been taken away, the object is copied again, whatever happens in between. -/
  again : ∀ object u, Loses object s u → ∀ since v, Leads u since v →
    (∀ m ∈ since, ∀ b once, ¬ m.Copies object b once) →
      ∀ t, t.object.toNat = object → ¬ TakesNone v object → MadeOrFailed t v (transferIn t true v)

private theorem chronicled (lives : Lives past s) : Chronicled past s where
  content := content_iff lives
  ever object b bound := by
    refine ⟨copies_of_filled, ?_⟩
    rintro ⟨m, member, once, copies⟩
    exact filled_of_copies lives member copies bound
  first := first_of_lives lives
  leftOut t b whole bound filled :=
    Machine.transferIn_leftOut whole ((content_iff lives _).2 ⟨b, bound, filled⟩)
  made t b takes bound unfilled := by
    refine Machine.transferIn_due takes (.inr (.inr ?_))
    rw [← Bool.not_eq_true, content_iff lives]
    rintro ⟨b', bound', filled⟩
    rw [bound] at bound'
    cases bound'
    exact unfilled filled
  always t takes := Machine.transferIn_due takes (.inl rfl)
  batched t batch takes := Machine.transferIn_due takes (.inr (.inl batch))
  again object u loses since v leads none t same takes := by
    subst same
    have unmarked := unmarked_of_leads leads (loses.unmarked (coherent_of_lives lives)) none
    exact Machine.transferIn_due takes (.inr (.inr unmarked))

end Session

namespace Workspace

variable {w : Workspace} {seat index : Nat} {s : Session}

/-- Wherever a history leads, each machine has a life behind it, and that life accounts for what its
buffers have received. -/
theorem copies_accounted (reachable : w.Reachable) (present : w.session? seat = some (index, s)) :
    (∃ past, Session.Lives past s) ∧ ∀ past, Session.Lives past s → Session.Chronicled past s :=
  ⟨lives_of_reachable reachable present, fun _ lives => Session.chronicled lives⟩

/-- A copy of the whole of the first object. -/
def firstCopy : Transfer where
  object := 0
  list := none
  offset := 0
  batchSize := 0

/-- A machine that has replayed a program with one copy twice. -/
def replayed : Workspace :=
  let program := Assembly.bytes
    { instructions := [.context 0, .beginPass, .alloc 0 [0], .transfer .inOnce firstCopy, .endPass] }
  let config : Config := { useDependencies := false }
  let start : Workspace :=
    { context := { name := "replayed", objects := [{ object := .array (.zeroed .i32 4) }] }
      devices := [{}] }
  let first := (start.build 0 program config).state
  let second := (first.onMachine 0 (MachineCommand.execute .run).run).state
  (second.onMachine 0 (MachineCommand.execute .run).run).state

private theorem replayed_reachable : replayed.Reachable := by
  refine .step ?_ (.machine _ 0 (.execute .run))
  refine .step ?_ (.machine _ 0 (.execute .run))
  refine .step ?_ (.build _ 0 _ _)
  exact .start _ _ rfl

/-- The second replay has left the copy out, and so will the next one. -/
theorem replayed_once : replayed.Reachable ∧ ∃ index s, replayed.session? 0 = some (index, s) ∧
    copiesIn s = 1 ∧ contentOf s 0 = true ∧
    copiesIn (transferIn firstCopy true s).state = 1 ∧
    ∃ past b, Session.Lives past s ∧ bufferOf s 0 = some b ∧ Filled 0 b past := by
  have present : (replayed.session? 0).isSome := by decide +kernel
  have copies : (replayed.session? 0).map (fun found => copiesIn found.2) = some 1 := by decide +kernel
  have marks : (replayed.session? 0).map (fun found => contentOf found.2 0) = some true := by decide +kernel
  obtain ⟨⟨index, s⟩, found⟩ := Option.isSome_iff_exists.1 present
  rw [found] at copies marks
  have copied := Option.some.inj copies
  have marked := Option.some.inj marks
  obtain ⟨⟨past, lives⟩, accounted⟩ := copies_accounted replayed_reachable found
  obtain ⟨b, bound, filled⟩ := ((accounted past lives).content 0).1 marked
  have idle := (accounted past lives).leftOut firstCopy b rfl bound filled
  exact ⟨replayed_reachable, index, s, found, copied, marked, idle.copies.trans copied, past, b, lives, bound, filled⟩

end Workspace
end Offload
