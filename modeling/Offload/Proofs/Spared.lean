import Offload.Proofs.AtomicsSlot
import Offload.Proofs.Contracts
import Offload.Proofs.EventHandles
import Offload.Proofs.HonestKernels

/-! What work on a device spares. Work for the owner of some buffers keeps the bytes of all others, the
one aside that atomics are written to, and keeps every event good that was good before. Unless it
gives buffers back, it keeps the size of every buffer. Asked about good handles the device raises no
error about a handle. -/
namespace Offload.Device

variable {owned : BufferId → Prop} {before after d : Device} {id : BufferId} {α : Type}

/-- Atomics are written to the buffer with this id. -/
def Slot (d : Device) (id : BufferId) : Prop :=
  ∃ b, d.atomics = some b ∧ b.id = id

/-- The kernels of the device raise no errors about handles of their own. -/
def Honest (d : Device) : Prop :=
  ∀ name kernel, d.kernels.get? name = some kernel → Kernel.Honest kernel

/-- Kernels that are honest stay so. -/
theorem Honest.later (honest : before.Honest) (kernels : after.kernels = before.kernels) :
    after.Honest := fun name kernel found => honest name kernel (kernels ▸ found)

/-- Events stay good. -/
def Steady (before after : Device) : Prop :=
  before.events.Steady after.events

instance : Op.Transition Steady where
  refl _ := Op.Transition.refl (R := EventTable.Steady) _
  trans first second := Op.Transition.trans (R := EventTable.Steady) first second

instance : Tolerates [.reset] Steady where
  change other change := by
    cases change with
    | reset => exact absurd (by decide) other
    | record ran => exact EventTable.steady_record ran
    | drain ran => exact EventTable.steady_drain ran
    | complete ran => exact EventTable.steady_complete ran
    | mark ran => exact EventTable.steady_marker ran
    | _ => exact Op.Transition.refl (R := EventTable.Steady) _

/-- Nothing but the buffers of an owner and the one of the atomics has changed. -/
structure Spares (owned : BufferId → Prop) (before after : Device) : Prop where
  epoch : after.epoch = before.epoch
  kernels : after.kernels = before.kernels
  events : before.events.Steady after.events
  memory : before.memory.Grows after.memory
  slot : ∀ id, after.Slot id →
    before.Slot id ∨ before.memory.nextId ≤ id ∧ id < after.memory.nextId
  buffers : ∀ id, id < before.memory.nextId → ¬ owned id → ¬ before.Slot id →
    after.memory.buffers.get? id = before.memory.buffers.get? id

/-- No buffer was given back either, the one of the atomics aside. -/
structure Calm (owned : BufferId → Prop) (before after : Device) : Prop
    extends Spares owned before after where
  sizes : ∀ id, id < before.memory.nextId → ¬ before.Slot id →
    (after.memory.buffers.get? id).map Buffer.size = (before.memory.buffers.get? id).map Buffer.size

/-- A buffer that was there before and is not the slot is not the slot later. -/
theorem Spares.not_slot (spares : Spares owned before after) (old : id < before.memory.nextId)
    (other : ¬ before.Slot id) : ¬ after.Slot id := by
  intro slot
  rcases spares.slot id slot with same | ⟨new, _⟩
  · exact other same
  · exact Nat.not_lt.2 new old

/-- What was handed out before stays so. -/
theorem Spares.old (spares : Spares owned before after) (old : id < before.memory.nextId) :
    id < after.memory.nextId := Nat.lt_of_lt_of_le old spares.memory.nextId

/-- One stretch of work after another, the second one for an owner that has only new buffers besides. -/
theorem Spares.andThen {owned' : BufferId → Prop} {first middle last : Device}
    (head : Spares owned first middle) (tail : Spares owned' middle last)
    (narrow : ∀ id, id < first.memory.nextId → owned' id → owned id) : Spares owned first last where
  epoch := tail.epoch.trans head.epoch
  kernels := tail.kernels.trans head.kernels
  events := Op.Transition.trans head.events tail.events
  memory := Op.Transition.trans head.memory tail.memory
  slot id slot := by
    rcases tail.slot id slot with earlier | ⟨new, used⟩
    · rcases head.slot id earlier with first | ⟨new, used⟩
      · exact .inl first
      · exact .inr ⟨new, Nat.lt_of_lt_of_le used tail.memory.nextId⟩
    · exact .inr ⟨Nat.le_trans head.memory.nextId new, used⟩
  buffers id old foreign other := by
    rw [tail.buffers id (head.old old) (fun mine => foreign (narrow id old mine))
      (head.not_slot old other), head.buffers id old foreign other]

instance : Op.Transition (Spares owned) where
  refl _ := ⟨rfl, rfl, Op.Transition.refl _, Op.Transition.refl _, fun _ => .inl,
    fun _ _ _ _ => rfl⟩
  trans head tail := head.andThen tail fun _ _ mine => mine

instance : Op.Transition (Calm owned) where
  refl _ := ⟨Op.Transition.refl _, fun _ _ _ => rfl⟩
  trans {first middle last} head tail := by
    refine ⟨Op.Transition.trans head.toSpares tail.toSpares, fun id old other => ?_⟩
    rw [tail.sizes id (head.old old) (head.not_slot old other), head.sizes id old other]

/-- Work that only overwrites is calm. -/
theorem calm_of_works (works : Works before after) (events : before.events.Steady after.events)
    (others : ∀ id, ¬ owned id → ¬ before.Slot id →
      after.memory.buffers.get? id = before.memory.buffers.get? id) : Calm owned before after where
  epoch := works.epoch
  kernels := works.kernels
  events := events
  memory := works.memory
  slot := by
    rintro id ⟨b, found, same⟩
    exact .inl ⟨b, works.atomics ▸ found, same⟩
  buffers id _ foreign other := others id foreign other
  sizes id _ _ := works.overwrites.sizes id

/-- A device that differs in its events and its books only. -/
theorem calm_of_events (works : Works before after) (events : before.events.Steady after.events)
    (memory : after.memory = before.memory) : Calm owned before after :=
  calm_of_works works events fun _ _ _ => by rw [memory]

/-- A device that differs in its books only. -/
theorem calm_of_books (info : after.info = before.info) (kernels : after.kernels = before.kernels)
    (failing : after.failing = before.failing) (epoch : after.epoch = before.epoch)
    (atomics : after.atomics = before.atomics) (memory : after.memory = before.memory)
    (events : after.events = before.events) : Calm owned before after :=
  calm_of_events (works_of_same info kernels failing epoch atomics memory)
    (events ▸ Op.Transition.refl _) memory

/-- Buffers that were there before are as they were, the one of the atomics aside. -/
theorem calm_of_kept (epoch : after.epoch = before.epoch) (kernels : after.kernels = before.kernels)
    (events : after.events = before.events) (memory : before.memory.Grows after.memory)
    (slot : ∀ id, after.Slot id → before.Slot id ∨ before.memory.nextId ≤ id ∧ id < after.memory.nextId)
    (kept : ∀ id, id < before.memory.nextId → ¬ before.Slot id →
      after.memory.buffers.get? id = before.memory.buffers.get? id) : Calm owned before after where
  epoch := epoch
  kernels := kernels
  events := events ▸ Op.Transition.refl _
  memory := memory
  slot := slot
  buffers id old _ other := kept id old other
  sizes id old other := congrArg (Option.map Buffer.size) (kept id old other)

/-- Whoever owns what: everything is calm but to give buffers back by name and to write to them. -/
instance (priority := low) : Tolerates [.free, .write, .reset, .kernels] (Calm owned) where
  change {_ d d'} other change := by
    have events : Steady d d' := Tolerates.change (by simp_all) change
    cases change with
    | free | write | reset | register | refuse => exact absurd (by decide) other
    | @add _ size =>
      exact calm_of_kept rfl rfl rfl (Memory.grows_addBuffer _ _) (fun _ => .inl)
        fun _ old _ => Memory.addBuffers_get? d.memory [size] old
    | @renew _ size =>
      refine calm_of_kept rfl rfl rfl (Memory.grows_addBuffer _ _) ?_
        fun _ old _ => Memory.addBuffers_get? d.memory [size] old
      rintro id ⟨b, ⟨⟩, ⟨⟩⟩
      exact .inr ⟨Nat.le_refl _, Nat.lt_succ_self _⟩
    | vacate remembered ran =>
      refine calm_of_kept rfl rfl rfl (Memory.grows_free ran) (fun _ => .inl) fun id _ other => ?_
      obtain ⟨held, _, _, rfl⟩ := Memory.free_ok_iff.1 ran
      rw [Table.get?_erase, if_neg fun same => other ⟨_, remembered, same⟩]
    | record | drain | complete | mark => exact calm_of_events (works_of_same rfl rfl rfl rfl rfl rfl) events rfl
    | _ => exact calm_of_books rfl rfl rfl rfl rfl rfl rfl

/-- What honest kernels excuse stays excused. -/
instance (P : DeviceError → Prop) : Op.Hereditary (Calm owned) fun d e => d.Honest → P e where
  back calm excused honest := excused (honest.later calm.kernels)

/-! ### Parts of the work -/

/-- No error about a handle. -/
abbrev Plain (_ : Device) (e : DeviceError) : Prop :=
  e.aboutHandle = false

section Parts

variable {E : Device → DeviceError → Prop}

theorem serves_count (change : DeviceCounters → DeviceCounters) :
    Op.Serves (count change) (Calm owned) E (fun _ _ => True) d :=
  Op.serves_modify (calm_of_books rfl rfl rfl rfl rfl rfl rfl) trivial

private theorem serves_onMemory {change : Memory → Except DeviceError (α × Memory)} {P : α → Device → Prop}
    (refused : ∀ e, change d.memory = .error e → E d e)
    (done : ∀ a memory, change d.memory = .ok (a, memory) →
      Calm owned d { d with memory } ∧ P a { d with memory }) :
    Op.Serves (onMemory change) (Calm owned) E P d := by
  refine Op.serves_step ?_ ?_
  · intro e failed
    rcases changed : change d.memory with e' | ⟨a, m⟩ <;> rw [changed] at failed <;> cases failed
    exact refused e changed
  · intro a d' ran
    rcases changed : change d.memory with e | ⟨a', m⟩ <;> rw [changed] at ran <;> cases ran
    exact done a m changed

/-- The writes of an owner. -/
theorem calm_writeBuffer {data : Bytes} (mine : owned id ∨ d.Slot id) :
    Calm owned d (writeBuffer id data d).state := by
  rw [writeBuffer, onMemory_run]
  rcases wrote : d.memory.write id data with e | m
  · exact Op.Transition.refl d
  · have overwrites := Memory.overwrites_write wrote
    refine calm_of_works ⟨⟨rfl, rfl, rfl, rfl, overwrites.grows⟩, rfl, overwrites⟩
      (Op.Transition.refl _) fun other foreign atomics => Memory.write_others wrote ?_
    rintro rfl
    exact mine.elim foreign atomics

/-- A write to a buffer that is alive. -/
theorem serves_writeBuffer {held : Buffer} {data : Bytes} (mine : owned id ∨ d.Slot id)
    (found : d.memory.buffers.get? id = some held) :
    Op.Serves (writeBuffer id data) (Calm owned) Plain (fun _ _ => True) d := by
  refine ⟨calm_writeBuffer mine, fun e failed => ?_, fun _ _ => trivial⟩
  rw [writeBuffer, onMemory_run] at failed
  rcases wrote : d.memory.write id data with e' | m <;> rw [wrote] at failed <;> cases failed
  exact Memory.answered_write found _ wrote

/-- Work on events that is given good ones. -/
theorem serves_onEvents {change : EventTable → Except DeviceError (α × EventTable)}
    {Q : α → EventTable → Prop}
    (done : ∃ a t, change d.events = .ok (a, t) ∧ d.events.Later t ∧ Q a t) :
    Op.Serves (onEvents change) (Calm owned) E (fun a d => Q a d.events) d := by
  obtain ⟨a, t, changed, later, holds⟩ := done
  refine Op.serves_step ?_ ?_
  · intro e failed
    rw [changed] at failed
    cases failed
  · intro a' d' ran
    rw [changed] at ran
    cases ran
    exact ⟨calm_of_events (works_of_same rfl rfl rfl rfl rfl rfl) (fun _ => later) rfl, holds⟩

private theorem serves_recordEvent {kind : EventKind} {wait : List EventId} (sound : d.events.Sound)
    (known : ∀ w ∈ wait, d.events.Knows w) :
    Op.Serves (recordEvent kind wait) (Calm owned) E (fun event d => d.events.Knows event) d :=
  serves_onEvents (Q := fun event t => t.Knows event) (sound.record_ok known kind)

end Parts

/-! ### Copies and waits -/

/-- A copy to a buffer of its owner spares all others. -/
theorem serves_streamIn {object : HostObject} {buffer : DeviceBuffer} {range : HostRange}
    {wait : List EventId} (mine : owned buffer.id) (live : d.memory.Live buffer)
    (sound : d.events.Sound) (known : ∀ w ∈ wait, d.events.Knows w) :
    Op.Serves (streamIn object buffer range wait) (Calm owned) Plain
      (fun events d => ∀ e ∈ events, d.events.Knows e) d := by
  obtain ⟨held, found, _⟩ := live
  refine Op.serves_ofExcept_bind ?_ fun data _ => ?_
  · intro e failed
    unfold HostObject.readRange at failed
    split at failed <;> cases failed
    rfl
  refine Op.serves_bind (serves_writeBuffer (.inl mine) found) fun _ d₁ calm _ => ?_
  have later := calm.events sound
  refine Op.serves_bind (serves_recordEvent later.sound fun w member => later.knows w (known w member))
    fun event d₂ calm fresh => ?_
  refine Op.serves_bind (serves_count _) fun _ d₃ calm' _ => ?_
  refine Op.serves_emit_bind (Op.serves_pure fun e member => ?_)
  rw [List.mem_singleton.1 member]
  exact (calm'.events (calm.events later.sound).sound).knows event fresh

private theorem serves_drainAll {events : List EventId} (sound : d.events.Sound)
    (known : ∀ e ∈ events, d.events.Knows e) :
    Op.Serves (drainAll events) (Calm owned) Plain (fun _ _ => True) d := by
  induction events generalizing d with
  | nil => exact Op.serves_pure trivial
  | cons id rest ih =>
    obtain ⟨t, drained, later⟩ := sound.drain_ok (known id (List.mem_cons_self ..))
    refine Op.serves_bind (P := fun _ _ => True)
      (serves_onEvents (Q := fun _ _ => True) ⟨(), t, by rw [drained]; rfl, later, trivial⟩)
      fun _ d' calm _ => ?_
    have later := calm.events sound
    exact ih later.sound fun e member => later.knows e (known e (List.mem_cons_of_mem _ member))

/-- A wait for known events spares every buffer. -/
theorem serves_waitEvents {events : List EventId} (sound : d.events.Sound)
    (known : ∀ e ∈ events, d.events.Knows e) :
    Op.Serves (waitEvents events) (Calm owned) Plain (fun _ _ => True) d :=
  Op.serves_bind (serves_drainAll sound known) fun _ _ _ _ => serves_count _

abbrev CopyPlain (_ : HostObject × Device) (e : DeviceError) : Prop :=
  e.aboutHandle = false

private theorem serves_copyDevice {op : DeviceOp α} {P : α → Device → Prop} {s : HostObject × Device}
    (serves : Op.Serves op (Calm owned) Plain P s.2) :
    Op.Serves (onDevice op) (OfCopy (Calm owned)) CopyPlain (fun a s => P a s.2) s :=
  Op.serves_onPart serves (fun _ calm => calm) (fun _ plain => plain) fun _ _ holds => holds

/-- A copy to the host spares every buffer. -/
theorem serves_streamOut {object : HostObject} {buffer : DeviceBuffer} {range : HostRange}
    {wait : List EventId} (live : d.memory.Live buffer) (sound : d.events.Sound)
    (known : ∀ w ∈ wait, d.events.Knows w) :
    Op.Serves (streamOut buffer range wait) (OfCopy (Calm owned)) CopyPlain
      (fun event s => s.2.events.Knows event) (object, d) := by
  obtain ⟨held, found, _⟩ := live
  refine Op.serves_get (Op.serves_ofExcept_bind (fun e failed => ?_) fun data _ => ?_)
  · exact Memory.answered_read found e failed
  refine Op.serves_bind (P := fun _ s => s.2 = d) (Op.serves_step ?_ ?_) fun _ s _ same => ?_
  · intro e failed
    dsimp only at failed
    unfold HostObject.writeRange at failed
    split at failed <;> cases failed
    rfl
  · rintro u t ran
    dsimp only at ran
    rcases written : object.writeRange range.offset data with e | new <;> rw [written] at ran <;>
      cases ran
    exact ⟨Op.Transition.refl (R := Calm owned) _, rfl⟩
  · rw [← same] at sound known
    refine serves_copyDevice (P := fun event d => d.events.Knows event) ?_
    refine Op.serves_bind (serves_recordEvent sound known) fun event d₁ calm fresh => ?_
    refine Op.serves_bind (serves_count _) fun _ d₂ calm' _ => ?_
    refine Op.serves_emit_bind (Op.serves_pure ?_)
    exact (calm'.events (calm.events sound).sound).knows event fresh

/-- A copy to the host that is waited for spares every buffer. -/
theorem serves_streamOutBlocking {object : HostObject} {buffer : DeviceBuffer} {range : HostRange}
    {wait : List EventId} (live : d.memory.Live buffer) (sound : d.events.Sound)
    (known : ∀ w ∈ wait, d.events.Knows w) :
    Op.Serves (streamOutBlocking buffer range wait) (OfCopy (Calm owned)) CopyPlain
      (fun event s => s.2.events.Knows event) (object, d) := by
  refine Op.serves_bind (serves_streamOut live sound known) fun event s calm fresh => ?_
  have later : d.events.Later s.2.events := calm.events sound
  have known : ∀ e ∈ [event], s.2.events.Knows e := by
    intro e member
    rw [List.mem_singleton.1 member]
    exact fresh
  refine Op.serves_bind (serves_copyDevice (serves_waitEvents later.sound known)) fun _ s' calm' _ => ?_
  exact Op.serves_pure ((calm'.events later.sound).knows event fresh)

/-! ### Binaries, launches and markers -/

/-- A compilation spares every buffer and gives code of this epoch. -/
theorem serves_installCode {request : CompileRequest} :
    Op.Serves (installCode request) (Calm owned) Plain (fun code d => code.epoch = d.epoch) d := by
  refine Op.serves_get (Op.serves_ofExcept_bind ?_ fun _ _ => ?_)
  · intro e failed
    unfold checkTask at failed
    split at failed
    · cases failed
      rfl
    · split at failed
      · cases failed
        rfl
      · split at failed <;> cases failed
        rfl
  refine Op.serves_modify_bind (calm_of_books rfl rfl rfl rfl rfl rfl rfl) ?_
  refine Op.serves_bind (serves_count _) fun _ d' calm _ => ?_
  exact Op.serves_emit_bind (Op.serves_pure calm.epoch.symm)

/-- A binary of this epoch, run on buffers that are alive. Without atomics, and with honest kernels,
there is no error about a handle. -/
theorem serves_launch {code : Binary} {frame : List KernelArg} {atomics : Option DeviceBuffer}
    {grid : Grid} {offset : Nat} {wait : List EventId} (valid : code.valid = true)
    (epoch : code.epoch = d.epoch) (mine : ∀ b, .buffer b ∈ frame → owned b.id ∧ d.memory.Live b)
    (slot : ∀ b, atomics = some b → d.Slot b.id) (sound : d.events.Sound)
    (known : ∀ w ∈ wait, d.events.Knows w) :
    Op.Serves (launch code frame atomics grid offset wait) (Calm owned)
      (fun d e => d.Honest → atomics = none → e.aboutHandle = false) (fun event d => d.events.Knows event) d := by
  refine Op.serves_get (Op.serves_ofExcept_bind ?_ fun kernel installed => ?_)
  · intro e failed _ _
    unfold kernelOf at failed
    rw [if_neg (by simp [valid, epoch])] at failed
    split at failed <;> cases failed
    rfl
  have registered : d.kernels.get? code.kernel = some kernel := by
    unfold kernelOf at installed
    rw [if_neg (by simp [valid, epoch])] at installed
    split at installed <;> cases installed
    next found => exact found
  have foreign {id : BufferId} (others : ¬ owned id) (other : ¬ d.Slot id) :
      ¬ (Invocation.ofLaunch code frame atomics grid offset).Holds id := by
    rintro (⟨b, member, rfl⟩ | held)
    · exact others (mine b member).1
    · obtain ⟨b, found, rfl⟩ := Option.map_eq_some_iff.1 held
      exact other (slot b found)
  refine Op.serves_ofExcept_bind ?_ fun threads _ => ?_
  · intro e failed _ _
    cases Invocation.overflows_threads failed
    rfl
  refine Op.serves_bind (P := fun _ _ => True) ⟨?_, ?_, fun _ _ => trivial⟩ fun _ d₁ calm _ => ?_
  · exact calm_of_works (moves_within (only_runKernel _ _) (by decide) d) (Op.Transition.refl _) fun id others other =>
      KernelProgram.run_others _ _ (foreign others other)
  · rintro e failed honest rfl
    refine (honest _ _ registered _).run ?_ e failed
    rintro id (⟨b, member, rfl⟩ | held)
    · obtain ⟨held, found, _⟩ := (mine b member).2
      exact ⟨held, found⟩
    · cases held
  have later := calm.events sound
  refine Op.serves_bind (serves_recordEvent later.sound fun w member => later.knows w (known w member))
    fun event d₂ calm' fresh => ?_
  refine Op.serves_bind (serves_count _) fun _ d₃ calm'' _ => ?_
  refine Op.serves_emit_bind (Op.serves_pure ?_)
  exact (calm''.events (calm'.events later.sound).sound).knows event fresh

/-- A marker spares every buffer and is known. -/
theorem serves_enqueueMarker {wait : List EventId} (sound : d.events.Sound)
    (known : ∀ w ∈ wait, d.events.Knows w) :
    Op.Serves (enqueueMarker wait) (Calm owned) Plain (fun marker d => d.events.Knows marker) d := by
  obtain ⟨marker, deps, t, made, later, fresh⟩ := sound.marker_ok known
  refine Op.serves_bind (serves_onEvents (Q := fun made t => t.Knows made.1) ⟨_, t, made, later, fresh⟩)
    fun made d₁ calm fresh => ?_
  refine Op.serves_bind (serves_count _) fun _ d₂ calm' _ => ?_
  refine Op.serves_modify_bind (calm_of_books rfl rfl rfl rfl rfl rfl rfl) ?_
  exact Op.serves_pure ((calm'.events (calm.events sound).sound).knows made.1 fresh)

/-- The times of a known event are had without a change. -/
theorem serves_resolveEvent {event : EventId} (sound : d.events.Sound) (known : d.events.Knows event) :
    Op.Serves (resolveEvent event) (Calm owned) Plain (fun _ _ => True) d := by
  obtain ⟨profile, found⟩ := sound.profile_ok known
  refine Op.serves_get (Op.serves_ofExcept ?_ fun _ _ => trivial)
  intro e failed
  rw [found] at failed
  cases failed

/-! ### New buffers -/

/-- An allocation spares every buffer that was there. -/
theorem serves_allocate (sizes : List Nat) :
    Op.Serves (allocate sizes) (Calm owned) Plain
      (fun buffers d' => d.memory.allocate sizes = .ok (buffers, d'.memory) ∧ d'.atomics = d.atomics)
      d := by
  refine Op.serves_bind (serves_onMemory (P := fun buffers d' =>
    d.memory.allocate sizes = .ok (buffers, d'.memory) ∧ d'.atomics = d.atomics) ?_ ?_)
    fun buffers d₁ _ allocated => ?_
  · intro e failed
    unfold Memory.allocate Memory.reserve at failed
    split at failed <;> cases failed
    rfl
  · intro buffers m made
    have kept (id : BufferId) (old : id < d.memory.nextId) :
        m.buffers.get? id = d.memory.buffers.get? id := by
      have added := Memory.addBuffers_get? d.memory sizes old
      rw [(Memory.allocate_ok_iff.1 made).2] at added
      exact added
    exact ⟨calm_of_kept rfl rfl rfl (Memory.grows_allocate made) (fun _ => .inl) fun id old _ => kept id old,
      made, rfl⟩
  · refine Op.serves_modify_bind (calm_of_books rfl rfl rfl rfl rfl rfl rfl) ?_
    exact Op.serves_emit_bind (Op.serves_pure allocated)

/-! ### The slot -/

private theorem slot_of_works (works : Works before after) (slot : before.Slot id) : after.Slot id := by
  obtain ⟨b, remembered, same⟩ := slot
  exact ⟨b, works.atomics ▸ remembered, same⟩

/-- Atomics are written to the slot. Nothing is said about failures: the slot may be gone. -/
theorem serves_writeAtomics {values : List Int32} {wait : List EventId} (sound : d.events.Sound)
    (known : ∀ w ∈ wait, d.events.Knows w) :
    Op.Serves (writeAtomics values wait) (Calm owned) (fun _ _ => True)
      (fun sent d => d.Slot sent.1.id ∧ ∀ e ∈ sent.2, d.events.Knows e) d := by
  refine Op.serves_bind (P := fun b d => d.Slot b.id)
    ⟨moves_within (only_atomicsBuffer _) (by decide) d, fun _ _ => trivial,
      fun b result => ⟨b, atomics_of_atomicsBuffer ⟨result, rfl⟩, rfl⟩⟩ fun b d₁ calm slot => ?_
  have later := calm.events sound
  refine Op.serves_bind (Op.Serves.moving (P := fun _ _ => True)
    ⟨calm_writeBuffer (.inr slot), fun _ _ => trivial, fun _ _ => trivial⟩
    (moves_within (R := Works) (only_writeBuffer _ _) (by decide))) fun _ d₂ calm' ⟨_, wrote⟩ => ?_
  have later' := calm'.events later.sound
  refine Op.serves_bind ((serves_recordEvent later'.sound
    fun w member => later'.knows w (later.knows w (known w member))).moving
      (moves_within (R := Works) (only_recordEvent _ _) (by decide))) fun event d₃ calm'' ⟨fresh, recorded⟩ => ?_
  refine Op.serves_bind ((serves_count _).moving (works_count _)) fun _ d₄ counted ⟨_, noted⟩ => ?_
  refine Op.serves_pure ⟨?_, fun e member => ?_⟩
  · exact slot_of_works noted (slot_of_works recorded (slot_of_works wrote slot))
  · rw [List.mem_singleton.1 member]
    exact (counted.events (calm''.events later'.sound).sound).knows event fresh

end Offload.Device
