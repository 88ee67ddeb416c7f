import Offload.Proofs.CompileLog
import Offload.Proofs.Compilations
import Offload.Proofs.DeviceFrames
import Offload.Proofs.LaunchedBatch

/-! Binaries and the grids that are scheduled. A new schedule is compared with the one before it, and not
with what binaries were built for. All the same, every good binary was built for the grid that is scheduled
at the moment: a binary whose grid changes is not good any more, also when the change is taken back before
the task is launched again. -/
namespace Offload

namespace CacheSlot

/-- The slot of a task that is to be built anew. -/
def forced (slot : CacheSlot) : CacheSlot :=
  if slot.code.isSome then slot.invalidate else slot

@[simp] theorem code_forced (slot : CacheSlot) : slot.forced.code = none := by
  unfold forced
  by_cases compiled : slot.code.isSome
  · rw [if_pos compiled, code_invalidate]
  · rw [if_neg compiled]
    exact Option.not_isSome_iff_eq_none.1 compiled

/-- The slot of a task after a change of the schedule. -/
def rescheduled (old new : GridSchedule) (task : Option Task) (slot : CacheSlot) : CacheSlot :=
  match task with
  | none => slot
  | some task => if old.get? task.id = new.get? task.id then slot else slot.forced

end CacheSlot

private theorem CodeCache.forceRecompile_slot (c : CodeCache) (index other : Nat) :
    (c.forceRecompile index).slots[other]? =
      if index = other then (c.slots[other]?).map CacheSlot.forced else c.slots[other]? := by
  unfold forceRecompile
  rcases found : c.slots[index]? with _ | slot <;> dsimp only
  · by_cases same : index = other
    · rw [if_pos same, ← same, found]
      rfl
    · rw [if_neg same]
  by_cases compiled : slot.code.isSome
  · rw [if_pos compiled, List.getElem?_set, if_pos (List.getElem?_eq_some_iff.1 found).1]
    by_cases same : index = other
    · rw [if_pos same, if_pos same, ← same, found, Option.map_some, CacheSlot.forced, if_pos compiled]
    · rw [if_neg same, if_neg same]
  · rw [if_neg compiled]
    by_cases same : index = other
    · rw [if_pos same, ← same, found, Option.map_some, CacheSlot.forced, if_neg compiled]
    · rw [if_neg same]

namespace Machine

variable {s t : Session} {l : Launch}

/-- The task at an index, in a list that begins at `first`. -/
def taskFrom (first : Nat) (tasks : List Task) (index : Nat) : Option Task :=
  if first ≤ index then tasks[index - first]? else none

theorem taskFrom_zero (tasks : List Task) (index : Nat) : taskFrom 0 tasks index = tasks[index]? :=
  if_pos (Nat.zero_le index)

/-- The tasks from a number on are the first one and those behind it. -/
theorem taskFrom_cons (first : Nat) (task : Task) (rest : List Task) (index : Nat) :
    taskFrom first (task :: rest) index =
      if first = index then some task else taskFrom (first + 1) rest index := by
  unfold taskFrom
  by_cases here : first = index
  · rw [if_pos here, if_pos (Nat.le_of_eq here), here, Nat.sub_self]
    rfl
  rw [if_neg here]
  by_cases later : first ≤ index
  · rw [if_pos later, if_pos (show first + 1 ≤ index by omega),
      show index - first = index - (first + 1) + 1 by omega, List.getElem?_cons_succ]
  · rw [if_neg later, if_neg (show ¬ first + 1 ≤ index by omega)]

theorem taskFrom_before (first : Nat) (tasks : List Task) : taskFrom (first + 1) tasks first = none :=
  if_neg (Nat.not_succ_le_self first)

/-- Slots without a task that the schedules are asked about stay. -/
theorem map_rescheduled_none (old new : GridSchedule) (slot : Option CacheSlot) :
    slot.map (CacheSlot.rescheduled old new none) = slot := by
  cases slot <;> rfl

/-- The comparison of the schedules, task by task: each slot is changed as the entries of its task say. -/
theorem rebuildChanged_slots (schedule : GridSchedule) (tasks : List Task) (first : Nat) (s : Session) :
    ∃ cache, (rebuildChanged schedule first tasks s).state = { s with machine.cache := cache } ∧
      ∀ index, cache.slots[index]? = (s.machine.cache.slots[index]?).map
        (CacheSlot.rescheduled s.machine.schedule schedule (taskFrom first tasks index)) := by
  induction tasks generalizing first s with
  | nil =>
    refine ⟨s.machine.cache, rfl, fun index => ?_⟩
    rw [show taskFrom first [] index = none by simp [taskFrom], map_rescheduled_none]
  | cons task rest ih =>
    unfold rebuildChanged
    rw [Op.get_bind]
    by_cases same : s.machine.schedule.get? task.id = schedule.get? task.id
    · rw [if_pos same]
      obtain ⟨cache, state, slots⟩ := ih (first + 1) s
      refine ⟨cache, state, fun index => ?_⟩
      rw [slots index, taskFrom_cons]
      by_cases here : first = index
      · rw [if_pos here, ← here, taskFrom_before, map_rescheduled_none,
          show CacheSlot.rescheduled s.machine.schedule schedule (some task) = id from
            funext fun slot => if_pos same, Option.map_id_apply]
      · rw [if_neg here]
    · rw [if_neg same]
      obtain ⟨cache, state, slots⟩ := ih (first + 1)
        { s with machine.cache := s.machine.cache.forceRecompile first }
      refine ⟨cache, state, fun index => ?_⟩
      rw [slots index, CodeCache.forceRecompile_slot, taskFrom_cons]
      by_cases here : first = index
      · rw [if_pos here, if_pos here, ← here, taskFrom_before, map_rescheduled_none,
          show CacheSlot.rescheduled s.machine.schedule schedule (some task) = CacheSlot.forced from
            funext fun slot => if_neg same]
      · rw [if_neg here, if_neg here]

/-- Binaries can always be given up. -/
theorem succeeds_rebuildChanged (schedule : GridSchedule) (first : Nat) (tasks : List Task) :
    Op.Succeeds (rebuildChanged schedule first tasks) := by
  induction tasks generalizing first with
  | nil => exact Op.succeeds_pure _
  | cons task rest ih =>
    intro s
    unfold rebuildChanged
    rw [Op.get_bind]
    split
    · exact ih _ s
    · refine Op.succeeds_bind (Op.succeeds_modify _) (fun _ => ?_) s
      exact Op.succeeds_bind (Op.succeeds_emit _) fun _ => ih _

/-- A new schedule gives up the binaries of tasks whose grid changes. -/
theorem setSchedule_state (schedule : GridSchedule) (s : Session) :
    (setSchedule schedule s).state =
      { (rebuildChanged schedule 0 s.context.tasks s).state with
        machine.schedule := schedule } := by
  obtain ⟨⟨⟩, result⟩ := succeeds_rebuildChanged schedule 0 s.context.tasks s
  unfold setSchedule
  rw [Op.get_bind, (Op.bind_of_yields ⟨result, rfl⟩).2]
  rfl

/-- A change of the schedule changes the slots of tasks whose entries change, and nothing on the device. -/
theorem setSchedule_slots (schedule : GridSchedule) (s : Session) :
    ∃ cache : CodeCache,
      (setSchedule schedule s).state = { s with machine.cache := cache, machine.schedule := schedule } ∧
      ∀ index : Nat, cache.slots[index]? = (s.machine.cache.slots[index]?).map
        (CacheSlot.rescheduled s.machine.schedule schedule s.context.tasks[index]?) := by
  obtain ⟨cache, state, slots⟩ := rebuildChanged_slots schedule s.context.tasks 0 s
  refine ⟨cache, ?_, fun index => ?_⟩
  · rw [setSchedule_state, state]
  · rw [slots index, taskFrom_zero]

/-- A schedule that says the same about a task as the one before calls for the same compilation of it, or
for none just as before. -/
theorem compilation?_setSchedule {schedule : GridSchedule}
    (same : ∀ task, s.context.tasks[l.task.toNat]? = some task →
      s.machine.schedule.get? task.id = schedule.get? task.id) :
    compilation? (setSchedule schedule s).state l = compilation? s l := by
  obtain ⟨cache, state, slots⟩ := setSchedule_slots schedule s
  rw [state]
  refine compilation?_congr rfl ?_ fun task known => (same task known).symm
  rw [slots]
  rcases known : s.context.tasks[l.task.toNat]? with _ | task
  · exact Option.map_id_apply
  · rw [show CacheSlot.rescheduled s.machine.schedule schedule (some task) = id from
      funext fun slot => if_pos (same task known)]
    exact Option.map_id_apply

end Machine

/-! ### What good binaries were built for -/

namespace Session

variable {s t : Session}

/-- Good binaries were built for the grids that are scheduled. -/
def Scheduled (s : Session) : Prop :=
  ∀ index task slot code, s.context.tasks[index]? = some task →
    s.machine.cache.slots[index]? = some slot → slot.code = some code →
    s.device.BuiltFor code index (s.machine.schedule.get? task.id)

/-- The tasks stay, the device keeps its records, and good binaries remain what was scheduled. -/
structure Schedules (before after : Session) : Prop where
  tasks : after.context.tasks = before.context.tasks
  logs : Device.Logs before.device after.device
  scheduled : before.Scheduled → after.Scheduled

instance : Op.Transition Schedules where
  refl _ := ⟨rfl, Op.Transition.refl _, id⟩
  trans first second :=
    ⟨second.tasks.trans first.tasks, Op.Transition.trans first.logs second.logs,
      second.scheduled ∘ first.scheduled⟩

/-- Each slot has the binary from before, and the grid of its task is scheduled as before, or it has none
that is good, or a new one. -/
theorem schedules_of_slots (tasks : t.context.tasks = s.context.tasks)
    (logs : Device.Logs s.device t.device)
    (slots : ∀ index task slot code, s.context.tasks[index]? = some task →
      t.machine.cache.slots[index]? = some slot → slot.code = some code →
      (t.machine.schedule.get? task.id = s.machine.schedule.get? task.id ∧
          ∃ earlier, s.machine.cache.slots[index]? = some earlier ∧ earlier.code = some code) ∨
        t.device.BuiltFor code index (t.machine.schedule.get? task.id)) : Schedules s t := by
  refine ⟨tasks, logs, fun scheduled index task slot code known found held => ?_⟩
  rw [tasks] at known
  rcases slots index task slot code known found held with ⟨entry, earlier, found', held'⟩ | built
  · rw [entry]
    exact Device.builtFor_later logs (scheduled index task earlier code known found' held')
  · exact built

private theorem schedules_of_keeps (s t : Session) (kept : Keeps s t) (logs : Device.Logs s.device t.device) :
    Schedules s t := by
  refine schedules_of_slots kept.frames.tasks logs fun index task slot code _ found held => .inl ⟨?_, ?_⟩
  · rw [kept.frames.schedule]
  · rw [kept.frames.cache] at found
    exact ⟨slot, found, held⟩

/-- Without binaries there is nothing to be scheduled. -/
theorem schedules_of_cleared (tasks : t.context.tasks = s.context.tasks)
    (device : t.device = s.device) (cleared : t.machine.cache = s.machine.cache.clear) : Schedules s t := by
  refine schedules_of_slots tasks (device ▸ Op.Transition.refl _) fun index task slot code _ found held => ?_
  rw [cleared, CodeCache.clear, List.getElem?_map] at found
  obtain ⟨old, _, rfl⟩ := Option.map_eq_some_iff.1 found
  cases held

end Session

namespace Machine
open Session (Schedules schedules_of_slots schedules_of_cleared)

variable {s : Session} {l : Launch}

private theorem schedules_clearCode : Op.Moves clearCode Schedules :=
  fun _ => schedules_of_cleared rfl rfl rfl

private theorem schedules_forgetBuffers : Op.Moves forgetBuffers Schedules :=
  fun _ => schedules_of_slots rfl (Op.Transition.refl _)
    fun _ _ slot _ _ found held => .inl ⟨rfl, slot, found, held⟩

private theorem schedules_syncEpoch : Op.Moves syncEpoch Schedules := by
  intro s
  by_cases current : s.device.epoch = s.machine.epoch
  · rw [(syncEpoch_current current).2]
    exact Op.Transition.refl s
  rcases finished : s.machine.finishedWarmup with _ | _
  · rw [(syncEpoch_notice current finished).2]
    exact schedules_of_cleared rfl rfl rfl
  · rw [(syncEpoch_fatal current finished).2]
    exact Op.Transition.refl s

/-- A task whose entry changes has no good binary left. -/
theorem schedules_setSchedule (schedule : GridSchedule) : Op.Moves (setSchedule schedule) Schedules := by
  intro s
  obtain ⟨cache, state, slots⟩ := setSchedule_slots schedule s
  rw [state]
  refine schedules_of_slots rfl (Op.Transition.refl _) fun index task slot code known found held => ?_
  change cache.slots[index]? = some slot at found
  rw [slots, known] at found
  obtain ⟨earlier, found', rfl⟩ := Option.map_eq_some_iff.1 found
  rw [CacheSlot.rescheduled] at held
  split at held
  · next same => exact .inl ⟨same.symm, earlier, found', held⟩
  · rw [CacheSlot.code_forced] at held
    cases held

private theorem schedules_prepared (s : Session) (l : Launch) (task : Task) : Schedules s (prepared s l task) := by
  refine schedules_of_slots rfl (Op.Transition.refl _) fun index task' slot code _ found held => .inl ⟨rfl, ?_⟩
  rcases before : s.machine.cache.slots[l.task.toNat]? with _ | old
  · have same : (prepared s l task).machine.cache = s.machine.cache := CodeCache.prepare_absent before
    rw [same] at found
    exact ⟨slot, found, held⟩
  · rw [prepared_slots task before] at found
    rcases Pool.getElem?_set_some found with ⟨rfl, rfl⟩ | ⟨_, found⟩
    · rw [CacheSlot.code_fit] at held
      split at held
      · cases held
      · exact ⟨old, before, held⟩
    · exact ⟨slot, found, held⟩

/-- What is built is built for the grid that is scheduled. -/
theorem schedules_buildCode {index : Nat} {task : Task} (known : s.context.tasks[index]? = some task) :
    Schedules s (buildCode index task s).state := by
  rcases buildCode_cases s index task with ⟨e, _, _, same⟩ | ⟨_, _, built⟩
  · rw [same]
    exact Op.Transition.refl s
  rw [built]
  refine schedules_of_slots rfl ⟨[_], rfl, rfl⟩ fun other task' slot code known' found held => ?_
  change (s.machine.cache.install index (slotBinary s index task) task.writesLoopIndex).slots[other]? =
    some slot at found
  rcases before : s.machine.cache.slots[index]? with _ | old
  · rw [CodeCache.install_absent _ before] at found
    exact .inl ⟨rfl, slot, found, held⟩
  · rw [CodeCache.install_slots _ before] at found
    rcases Pool.getElem?_set_some found with ⟨rfl, rfl⟩ | ⟨_, found⟩
    · rw [known] at known'
      cases known'
      cases CacheSlot.eq_of_code_install held
      exact .inr (Device.builtFor_install s.device (requestOf s index task))
    · exact .inl ⟨rfl, slot, found, held⟩

private theorem schedules_fitCode (l : Launch) : Op.Moves (fitCode l) Schedules := by
  intro s
  rcases fitCode_cases l s with ⟨e, _, _, same⟩ | ⟨task, known, ⟨_, _, same⟩ | ⟨_, _, same⟩⟩ <;> rw [same]
  · exact Op.Transition.refl s
  · exact schedules_prepared s l task
  · exact Op.Transition.trans (schedules_prepared s l task) (schedules_buildCode (task_ok_iff.1 known))

private theorem schedules_compile (l : Launch) : Op.Moves (compile l) Schedules :=
  Op.moves_bind schedules_syncEpoch fun _ => schedules_fitCode l

private theorem respectedWith_schedules : RespectedWith Device.Logs Schedules where
  frame := Session.schedules_of_keeps
  sync := schedules_syncEpoch
  forget := schedules_forgetBuffers
  clear := schedules_clearCode
  schedule := schedules_setSchedule

end Machine

/-- Whatever a machine is asked for, its good binaries are as scheduled. -/
theorem MachineCommand.schedules (command : MachineCommand) : Op.Moves command.run Session.Schedules :=
  Machine.respectedWith_schedules.command Device.survives_logs Machine.schedules_compile command

/-! ### What is launched -/

namespace Session

variable {s t : Session} {l : Launch} {code : Binary} {b : Machine.BoundLaunch}

/-- A launch of a task is given a binary that was compiled for the grid that is scheduled for the task, if
there is one, and it runs over that grid or over the declared one, resized to the batch. -/
def AsScheduled (s : Session) (l : Launch) (code : Binary) (b : Machine.BoundLaunch) (device : Device) :
    Prop :=
  ∃ task grid, s.context.tasks[l.task.toNat]? = some task ∧
    device.BuiltFor code l.task.toNat (s.machine.schedule.get? task.id) ∧
    grid = (s.machine.schedule.get? task.id).getD task.grid ∧
    b.grid = if l.batchThreads = 0 then grid else grid.withThreads l.batchThreads.toNat

/-- What a scheduled session prepares for a launch is as scheduled. -/
theorem asScheduled_of_prepareLaunch (scheduled : s.Scheduled)
    (ran : Op.Yields (Machine.prepareLaunch l) s (code, b) t) : s.AsScheduled l code b t.device := by
  obtain ⟨fit, task, compiled, known, held, grid⟩ := Machine.prepareLaunch_binds ran
  have schedules : Schedules s fit := compiled.2 ▸ Machine.schedules_compile l s
  have schedule := Machine.compile_schedule compiled
  -- Nothing is recorded between the compilation and the call.
  have logs : Device.Logs fit.device t.device := by
    obtain ⟨_, u, compiled', rest⟩ := Op.yields_bind.1 ran
    obtain rfl : fit = u := compiled.2.symm.trans compiled'.2
    have bound : Op.Moves (do
        let code ← Machine.installedCode l
        let b ← Machine.bindLaunch l
        pure (code, b)) (Via Device.Logs) := by
      refine Op.moves_bind (Machine.moves_installedCode l) fun code => ?_
      exact Op.moves_bind (Machine.moves_bindLaunch l) fun _ => Op.moves_pure _
    exact bound.yields rest
  obtain ⟨slot, found, good⟩ : ∃ slot, fit.machine.cache.slots[l.task.toNat]? = some slot ∧
      slot.code = some code := by
    rw [CodeCache.code, CodeCache.slot] at held
    rcases found : fit.machine.cache.slots[l.task.toNat]? with _ | slot <;> rw [found] at held
    · cases held
    · exact ⟨slot, rfl, held⟩
  have listed := Machine.task_ok_iff.1 known
  have built := Device.builtFor_later logs (schedules.scheduled scheduled _ _ _ _ listed found good)
  rw [schedules.tasks] at listed
  refine ⟨task, _, listed, schedule ▸ built, rfl, ?_⟩
  rw [grid, schedule, Machine.launchGrid, GridSchedule.resolve]
  by_cases zero : l.batchThreads = 0
  · rw [if_pos zero, zero]
    rfl
  · rw [if_neg zero, if_pos]
    exact Nat.pos_of_ne_zero fun same => zero (UInt64.toNat_inj.1 same)

end Session

namespace Workspace

variable {w : Workspace} {seat index : Nat} {s : Session}

/-- In every reachable workspace the good binaries are as scheduled. -/
theorem scheduled_of_reachable (reachable : w.Reachable) (present : w.session? seat = some (index, s)) :
    s.Scheduled := by
  have everywhere : Device.Everywhere Device.Logs := Device.everywhere_of_tolerates
  refine every_session (sessions_besides (P := Session.Scheduled) everywhere ?_ ?_ ?_ reachable) present
  · intro program config before m site made index task slot code _ found held
    change m.cache.slots[index]? = some slot at found
    rw [(Machine.create_fresh made).cache] at found
    rw [(List.mem_replicate.1 (List.mem_of_getElem? found)).2] at held
    cases held
  · exact fun c s scheduled => (c.schedules s).scheduled scheduled
  · exact fun s context device scheduled tasks logs =>
      (Session.schedules_of_slots (s := s) (t := ⟨context, device, s.machine⟩) tasks logs
        fun _ _ slot _ _ found held => .inl ⟨rfl, slot, found, held⟩).scheduled scheduled

end Workspace
end Offload
