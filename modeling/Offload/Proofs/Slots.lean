import Offload.Proofs.Binaries
import Offload.Proofs.History

/-! Properties of slots. A property that a new slot has and that survives dropped binaries, forced
rebuilds and the launches of the program holds of every slot of every machine, in every history. -/
namespace Offload

/-- A property of the slot of a task, by the tasks of the context, the program of the machine and the
index of the task. -/
abbrev SlotProperty := List Task → Cursor → Nat → CacheSlot → Prop

/-- The slots of a session have the property. -/
def Session.Slots (P : SlotProperty) (s : Session) : Prop :=
  ∀ index slot, s.machine.cache.slots[index]? = some slot →
    P s.context.tasks s.machine.program index slot

/-- What a property must survive. -/
structure Upheld (P : SlotProperty) : Prop where
  fresh : ∀ tasks program index, P tasks program index {}
  dropped : ∀ tasks program index slot, P tasks program index slot →
    P tasks program index { slot with binary := none }
  invalidated : ∀ tasks program index slot, P tasks program index slot →
    P tasks program index slot.invalidate
  fitted : ∀ tasks program slot l task, program.Launches l → tasks[l.task.toNat]? = some task →
    P tasks program l.task.toNat slot →
    P tasks program l.task.toNat (slot.fit l.batchThreads.toNat task.writesLoopIndex)
  installed : ∀ tasks program slot l task (code : Binary), program.Launches l →
    tasks[l.task.toNat]? = some task → P tasks program l.task.toNat slot →
    code.batchThreads = l.batchThreads.toNat → code.batchNumber = slot.batchNumber →
    P tasks program l.task.toNat
      ((slot.fit l.batchThreads.toNat task.writesLoopIndex).install code task.writesLoopIndex)

variable {P : SlotProperty} {program : Cursor} {s t : Session}

/-- The session goes on, and slots of machines with this program keep the property. -/
structure Upholds (P : SlotProperty) (program : Cursor) (before after : Session) : Prop where
  continues : Machine.Continues before after
  slots : before.machine.program = program → before.Slots P → after.Slots P

instance : Op.Transition (Upholds P program) where
  refl _ := ⟨Op.Transition.refl _, fun _ slots => slots⟩
  trans first second :=
    ⟨Op.Transition.trans first.continues second.continues, fun same slots =>
      second.slots (first.continues.program.trans same) (first.slots same slots)⟩

/-- Slots that are the same have the same properties. -/
theorem upholds_of_same (continues : Machine.Continues s t)
    (same : t.machine.cache.slots = s.machine.cache.slots) : Upholds P program s t := by
  refine ⟨continues, ?_⟩
  intro _ slots index slot found
  rw [same] at found
  rw [continues.tasks, continues.program]
  exact slots index slot found

/-- So have slots of which one was replaced by one that has the property. -/
theorem slots_set {index : Nat} {slot : CacheSlot} (continues : Machine.Continues s t)
    (slots : s.Slots P) (changed : t.machine.cache.slots = s.machine.cache.slots.set index slot)
    (property : P s.context.tasks s.machine.program index slot) : t.Slots P := by
  intro other slot' found
  rw [continues.tasks, continues.program]
  rw [changed, List.getElem?_set] at found
  split at found
  · next same =>
    split at found <;> cases found
    exact same ▸ property
  · exact slots other slot' found

theorem upholds_of_keeps (s t : Session) (kept : Session.Keeps s t) : Upholds P program s t :=
  upholds_of_same (Machine.continues_of_keeps s t kept) (by rw [kept.frames.cache])

private theorem slots_clear (upheld : Upheld P) (continues : Machine.Continues s t) (slots : s.Slots P)
    (cleared : t.machine.cache = s.machine.cache.clear) : t.Slots P := by
  intro index slot found
  rw [continues.tasks, continues.program]
  rw [cleared, CodeCache.clear, List.getElem?_map] at found
  obtain ⟨old, earlier, rfl⟩ := Option.map_eq_some_iff.1 found
  exact upheld.dropped _ _ _ _ (slots index old earlier)

private theorem upholds_clearCode (upheld : Upheld P) :
    Op.Moves Machine.clearCode (Upholds P program) := by
  intro s
  have continues : Machine.Continues s _ := Machine.moves_clearCode s
  exact ⟨continues, fun _ slots => slots_clear upheld continues slots rfl⟩

theorem upholds_syncEpoch (upheld : Upheld P) (program : Cursor) :
    Op.Moves Machine.syncEpoch (Upholds P program) := by
  intro s
  have continues := Machine.continues_syncEpoch s
  refine ⟨continues, ?_⟩
  intro _ slots
  by_cases current : s.device.epoch = s.machine.epoch
  · rw [(Machine.syncEpoch_current current).2]
    exact slots
  rcases finished : s.machine.finishedWarmup with _ | _
  · have noticed := (Machine.syncEpoch_notice current finished).2
    exact slots_clear upheld continues slots (by rw [noticed]; rfl)
  · rw [(Machine.syncEpoch_fatal current finished).2]
    exact slots

private theorem upholds_forgetBuffers : Op.Moves Machine.forgetBuffers (Upholds P program) :=
  fun s => upholds_of_same (Machine.continues_forgetBuffers s) rfl

private theorem upholds_setSchedule (upheld : Upheld P) (schedule : GridSchedule) :
    Op.Moves (Machine.setSchedule schedule) (Upholds P program) := by
  refine Machine.moves_setSchedule (fun index s => ?_) fun _ => upholds_of_same (Machine.continues_machine rfl rfl) rfl
  have continues : Machine.Continues s { s with machine.cache := s.machine.cache.forceRecompile index } :=
    Machine.continues_machine rfl rfl
  refine ⟨continues, ?_⟩
  intro _ slots
  rcases CodeCache.forceRecompile_slots s.machine.cache index with same | ⟨slot, found, changed⟩
  · exact (upholds_of_same continues same).slots rfl slots
  · exact slots_set continues slots changed (upheld.invalidated _ _ _ _ (slots index slot found))

private theorem upholds_fitCode (upheld : Upheld P) {l : Launch} (launched : program.Launches l) :
    Op.Moves (Machine.fitCode l) (Upholds P program) := by
  intro s
  have continues : Machine.Continues s _ := Machine.moves_fitCode l s
  refine ⟨continues, ?_⟩
  rintro rfl slots
  rcases found : s.machine.cache.slots[l.task.toNat]? with _ | slot
  · exact (upholds_of_same continues (Machine.fitCode_absent found)).slots rfl slots
  rcases Machine.fitCode_cases l s with ⟨e, _, _, same⟩ | ⟨task, known, outcome⟩
  · rw [same]
    exact slots
  have inTasks := Machine.task_ok_iff.1 known
  have property := slots l.task.toNat slot found
  have ready := Machine.prepared_slot task found
  have fitted := Machine.prepared_slots task found
  have fits := upheld.fitted _ _ slot l task launched inTasks property
  rcases outcome with ⟨_, _, same⟩ | ⟨_, _, same⟩
  · exact slots_set continues slots (by rw [same, fitted]) fits
  rcases Machine.buildCode_slots task ready with ⟨e, _, kept⟩ | ⟨_, built⟩
  · exact slots_set continues slots (by rw [same, kept, fitted]) fits
  · obtain ⟨threads, number⟩ := Machine.slotBinary_fields task ready
    refine slots_set continues slots (by rw [same, built, fitted, List.set_set]) ?_
    exact upheld.installed _ _ slot l task _ launched inTasks property
      (threads.trans CacheSlot.batchThreads_fit) (number.trans CacheSlot.batchNumber_fit)

theorem upholds_compile (upheld : Upheld P) {l : Launch} (launched : program.Launches l) :
    Op.Moves (Machine.compile l) (Upholds P program) :=
  Op.moves_bind (upholds_syncEpoch upheld program) fun _ => upholds_fitCode upheld launched

private theorem respected_upholds (upheld : Upheld P) (program : Cursor) :
    Respected (Upholds P program) where
  frame := upholds_of_keeps
  sync := upholds_syncEpoch upheld program
  forget := upholds_forgetBuffers
  clear := upholds_clearCode upheld
  schedule := upholds_setSchedule upheld

private theorem slots_command (upheld : Upheld P) (command : MachineCommand) (slots : s.Slots P) :
    (command.run s).state.Slots P :=
  ((respected_upholds upheld s.machine.program).command command s fun _ launched =>
    upholds_compile upheld launched).slots rfl slots

namespace Workspace

variable {w : Workspace} {seat index : Nat}

/-- The slots of every machine have the property. -/
def Slots (P : SlotProperty) (w : Workspace) : Prop :=
  ∀ taken, some taken ∈ w.seats → ∀ index slot, taken.machine.cache.slots[index]? = some slot →
    P w.context.tasks taken.machine.program index slot

private theorem slots_step (upheld : Upheld P) {before after : Workspace} (slots : before.Slots P)
    (step : Step before after) : after.Slots P := by
  cases step with
  | build device program config =>
    rcases build_cases before device program config with same | ⟨d, site, _, kept, seat, same, fresh⟩
    · rw [same]
      intro taken member
      exact slots taken (by simpa using member)
    · rw [same]
      intro taken member index slot found
      rw [show site.1.tasks = before.context.tasks from kept.tasks]
      rcases List.mem_append.1 member with earlier | new
      · exact slots taken earlier index slot found
      · have cache := (fresh taken (List.mem_singleton.1 new).symm).2.cache
        rw [cache, CodeCache.create] at found
        rw [(List.mem_replicate.1 (List.mem_of_getElem? found)).2]
        exact upheld.fresh _ _ _
  | machine seat command =>
    rcases present : before.session? seat with _ | ⟨index, s⟩
    · rw [onMachine_absent present]
      exact slots
    · rw [onMachine_present present]
      obtain ⟨m, device, seated, found, rfl⟩ := session?_eq_some.1 present
      have continues := continues_command command ⟨before.context, device, m⟩
      have property : Session.Slots P ⟨before.context, device, m⟩ :=
        slots ⟨index, m⟩ (List.mem_of_getElem? seated)
      have after := slots_command upheld command property
      intro taken member
      rcases List.mem_or_eq_of_mem_set member with earlier | new
      · rw [show (before.update seat index _).context.tasks = before.context.tasks from continues.tasks]
        exact slots taken earlier
      · cases new
        exact after
  | device index command =>
    rcases present : before.devices[index]? with _ | device
    · rw [onDevice_absent present]
      exact slots
    · rw [onDevice_present present]
      exact slots
  | setLimit limit => exact slots
  | setObject index object => exact slots

theorem slots_of_reachable (upheld : Upheld P) (reachable : w.Reachable)
    (present : w.session? seat = some (index, s)) : s.Slots P := by
  have all : w.Slots P := by
    clear present
    induction reachable with
    | start context devices unused => exact fun _ member => nomatch member
    | step _ step slots => exact slots_step upheld slots step
  obtain ⟨m, device, seated, found, rfl⟩ := session?_eq_some.1 present
  exact all ⟨index, m⟩ (List.mem_of_getElem? seated)

end Workspace
end Offload
