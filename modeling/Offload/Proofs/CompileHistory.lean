import Mathlib.Data.List.Dedup
import Offload.Proofs.ScheduledGrids

/-! The compilations of a machine, from its launches alone. A slot remembers the batch of the launch before,
the first batch that was not empty and how many batches were built; that is all there is to know about the
launches of its task so far. Which launches are compiled, and from which requests, follows from the batches
that the launches before them named. -/
namespace Offload

namespace CacheSlot

variable {slot : CacheSlot} {storing : Bool} {batches : List Nat} {built threads : Nat} {code : Binary}

/-- The first batch that is not empty, of batches with the latest first. -/
def firstBatch (batches : List Nat) : Nat :=
  (batches.reverse.find? (· != 0)).getD 0

private theorem firstBatch_cons (threads : Nat) (batches : List Nat) :
    firstBatch (threads :: batches) =
      if firstBatch batches = 0 then threads else firstBatch batches := by
  unfold firstBatch
  rw [List.reverse_cons, List.find?_append]
  rcases found : batches.reverse.find? (· != 0) with _ | first
  · by_cases zero : threads = 0 <;> simp [zero]
  · have nonzero : first ≠ 0 := by simpa using List.find?_some found
    simp [nonzero]

/-- A launch of so many threads is compiled, after launches of `batches`, the latest first, of which `built`
were compiled for threads of their own. -/
def Due (storing : Bool) (batches : List Nat) (built threads : Nat) : Prop :=
  batches = [] ∨ (batches.headD 0 ≠ 0 ∧ batches.headD 0 ≠ threads) ∨ (storing = true ∧ 0 < built)

instance : Decidable (Due storing batches built threads) :=
  inferInstanceAs (Decidable (_ ∨ _ ∨ _))

/-- The slot says what has been launched and built so far. -/
structure Recalls (slot : CacheSlot) (storing : Bool) (batches : List Nat) (built : Nat) : Prop where
  compiled : slot.code.isSome = true ↔ batches ≠ []
  unforced : slot.force = false
  threads : slot.batchThreads = batches.headD 0
  size : slot.batchSize = if storing then firstBatch batches else 0
  number : slot.batchNumber = if storing then built else 0
  unbuilt : batches = [] → built = 0

private theorem recalls_new (storing : Bool) : Recalls {} storing [] 0 where
  compiled := by simp [code]
  unforced := rfl
  threads := rfl
  size := by cases storing <;> rfl
  number := by cases storing <;> rfl
  unbuilt _ := rfl

/-- A rebuild is forced when a compiled task is due for another compilation. -/
theorem recompilationNeeded_iff (recalls : slot.Recalls storing batches built) :
    slot.recompilationNeeded threads storing = true ↔
      batches ≠ [] ∧ Due storing batches built threads := by
  unfold recompilationNeeded Due
  rw [recalls.threads, recalls.number]
  cases batches with
  | nil =>
    have none : slot.code.isSome = false := by
      rw [← Bool.not_eq_true, recalls.compiled]
      exact fun compiled => compiled rfl
    simp [none, recalls.unbuilt rfl]
  | cons last earlier =>
    have some : slot.code.isSome = true := recalls.compiled.2 (List.cons_ne_nil _ _)
    cases storing <;> simp [some]

@[simp] theorem batchSize_fit : (slot.fit threads storing).batchSize =
    if slot.batchSize = 0 ∧ storing = true then threads else slot.batchSize := by
  unfold fit
  split <;> rfl

theorem force_fit : (slot.fit threads storing).force =
    if slot.recompilationNeeded threads storing then true else slot.force := by
  unfold fit
  split <;> rfl

section Fitted

variable (recalls : slot.Recalls storing batches built)
include recalls

private theorem needsCompile_fit_iff :
    (slot.fit threads storing).needsCompile = true ↔ Due storing batches built threads := by
  rw [needsCompile, code_fit]
  by_cases forced : slot.recompilationNeeded threads storing = true
  · rw [if_pos forced]
    exact ⟨fun _ => ((recompilationNeeded_iff recalls).1 forced).2, fun _ => rfl⟩
  · rw [if_neg forced, Option.isNone_iff_eq_none, ← Option.not_isSome_iff_eq_none, recalls.compiled,
      not_not]
    refine ⟨.inl, fun due => ?_⟩
    refine Classical.byContradiction fun compiled => forced ?_
    exact (recompilationNeeded_iff recalls).2 ⟨compiled, due⟩

/-- The request for a first compilation is not forced, and that for another one is. -/
theorem force_fit_due (due : Due storing batches built threads) :
    (slot.fit threads storing).force = decide (batches ≠ []) := by
  rw [force_fit, recalls.unforced]
  by_cases compiled : batches = []
  · have unforced : ¬ slot.recompilationNeeded threads storing = true :=
      fun forced => ((recompilationNeeded_iff recalls).1 forced).1 compiled
    rw [if_neg unforced, decide_eq_false (not_not.2 compiled)]
  · rw [if_pos ((recompilationNeeded_iff recalls).2 ⟨compiled, due⟩), decide_eq_true compiled]

private theorem batchSize_fit_recalls : (slot.fit threads storing).batchSize =
    if storing then firstBatch (threads :: batches) else 0 := by
  rw [batchSize_fit, recalls.size, firstBatch_cons]
  cases storing <;> simp

/-- A launch that is not due leaves the binary in place. -/
theorem recalls_fit (fits : ¬ Due storing batches built threads) :
    (slot.fit threads storing).Recalls storing (threads :: batches) built where
  compiled := by
    have kept := mt (needsCompile_fit_iff recalls).1 fits
    rw [needsCompile, Option.isNone_iff_eq_none, ← Option.not_isSome_iff_eq_none, not_not] at kept
    exact iff_of_true kept (List.cons_ne_nil _ _)
  unforced := by
    rw [force_fit, if_neg fun forced => fits ((recompilationNeeded_iff recalls).1 forced).2]
    exact recalls.unforced
  threads := batchThreads_fit
  size := batchSize_fit_recalls recalls
  number := batchNumber_fit.trans recalls.number
  unbuilt := nofun

/-- One that is due leaves a new one, and counts if it has threads of its own. -/
theorem recalls_install (valid : code.valid = true) :
    ((slot.fit threads storing).install code storing).Recalls storing (threads :: batches)
      (if threads = 0 then built else built + 1) where
  compiled := by
    rw [code_install valid]
    exact iff_of_true rfl (List.cons_ne_nil _ _)
  unforced := rfl
  threads := batchThreads_fit
  size := batchSize_fit_recalls recalls
  number := by
    show (if storing = true ∧ (slot.fit threads storing).batchThreads ≠ 0 then _ else _) = _
    rw [batchThreads_fit, batchNumber_fit, recalls.number]
    cases storing <;> by_cases zero : threads = 0 <;> simp [zero]
  unbuilt := nofun

end Fitted
end CacheSlot

namespace CodeCache

variable {c : CodeCache} {slot : CacheSlot} {index threads : Nat} {indexInWrite : Bool}

theorem prepare_recompilations (found : c.slots[index]? = some slot) :
    (c.prepare index threads indexInWrite).2.recompilations =
      c.recompilations + if slot.recompilationNeeded threads indexInWrite then 1 else 0 := by
  simp only [prepare, found]
  split <;> rfl

/-- There is nothing to rebuild for a task that has no binary. -/
theorem forceRecompile_idle (idle : c.code index = none) : c.forceRecompile index = c := by
  unfold forceRecompile
  rcases found : c.slots[index]? with _ | slot
  · rfl
  · rw [code, slot_eq found] at idle
    dsimp only
    rw [idle]
    rfl

end CodeCache

namespace Machine

/-- A schedule that is the same for the tasks that have binaries leaves the binaries alone. -/
theorem rebuildChanged_idle {schedule : GridSchedule} {tasks : List Task} {first : Nat} {s : Session}
    (idle : ∀ index task, taskFrom first tasks index = some task → s.machine.cache.code index ≠ none →
      s.machine.schedule.get? task.id = schedule.get? task.id) :
    (rebuildChanged schedule first tasks s).state = s := by
  induction tasks generalizing first with
  | nil => rfl
  | cons task rest ih =>
    have later : (rebuildChanged schedule (first + 1) rest s).state = s := by
      refine ih fun index other there => idle index other ?_
      rw [taskFrom_cons, if_neg, there]
      rintro rfl
      rw [taskFrom_before] at there
      cases there
    unfold rebuildChanged
    rw [Op.get_bind]
    by_cases same : s.machine.schedule.get? task.id = schedule.get? task.id
    · rw [if_pos same]
      exact later
    · rw [if_neg same]
      have absent : s.machine.cache.code first = none := by
        refine Classical.byContradiction fun held => same (idle first task ?_ held)
        rw [taskFrom_cons, if_pos rfl]
      have unchanged : ({ s with machine.cache := s.machine.cache.forceRecompile first } : Session) = s := by
        rw [CodeCache.forceRecompile_idle absent]
      show (rebuildChanged schedule (first + 1) rest
        { s with machine.cache := s.machine.cache.forceRecompile first }).state = s
      rw [unchanged]
      exact later

end Machine

/-! ### Launches and compilations of a machine -/

namespace Moment

/-- The launch that is carried out, if it is one. -/
def launch? (m : Moment) : Option Launch :=
  match m.command with
  | .perform _ _ index =>
    match m.before.machine.program.scan.entries[index]? with
    | some ⟨_, .launch l⟩ => some l
    | _ => none
  | _ => none

/-- The threads that are named by a launch of a task. -/
def batch? (index : Nat) (m : Moment) : Option Nat :=
  m.launch?.bind fun l => if l.task.toNat = index then some l.batchThreads.toNat else none

def request? (m : Moment) : Option CompileRequest :=
  m.launch?.bind fun l => Machine.compilation? m.before l

/-- The batches of the launches of a task, the latest first. -/
def batches (index : Nat) (past : List Moment) : List Nat :=
  past.filterMap (batch? index)

/-- The compilations that launches called for, the latest first. -/
def requests (past : List Moment) : List CompileRequest :=
  past.filterMap request?

/-- The tasks that were compiled, each as often as it was. -/
def compiled (past : List Moment) : List Nat :=
  (requests past).map (·.taskIndex)

/-- How often a task was compiled for threads of its own. -/
def built (index : Nat) (past : List Moment) : Nat :=
  (requests past).countP fun r => r.taskIndex = index ∧ r.batchThreads ≠ 0

/-- The compilation that a launch calls for, by what was launched and compiled before it. -/
def dueRequest (task : Task) (l : Launch) (grid : Option Grid) (past : List Moment) :
    Option CompileRequest :=
  let index := l.task.toNat
  let threads := l.batchThreads.toNat
  if CacheSlot.Due task.writesLoopIndex (batches index past) (built index past) threads then
    some
      { task, taskIndex := index, batchThreads := threads
        batchSize :=
          if task.writesLoopIndex then CacheSlot.firstBatch (threads :: batches index past) else 0
        batchNumber := if task.writesLoopIndex then built index past else 0
        grid, force := decide (batches index past ≠ []) }
  else none

/-- Nothing gets in the way of the binaries: no reset of the device, no cleared cache, no other grid for a
compiled task, and no compilation that fails. -/
structure Steady (tasks : List Task) (m : Moment) : Prop where
  context : m.before.context.tasks = tasks
  current : m.before.device.epoch = m.before.machine.epoch
  uncleared : m.command ≠ .clearCode
  scheduled : ∀ schedule, m.command = .setSchedule schedule → ∀ index task,
    tasks[index]? = some task → m.before.machine.cache.code index ≠ none →
      m.before.machine.schedule.get? task.id = schedule.get? task.id
  builds : ∀ request, m.request? = some request → m.before.device.checkTask request.task = .ok ()

variable {m : Moment} {l : Launch} {tasks : List Task}

/-- A launch leaves the binaries that its compilation left. -/
theorem cache_launch (launched : m.launch? = some l) :
    m.after.machine.cache = (Machine.compile l m.before).state.machine.cache := by
  have kept {α : Type} {next : Unit → MachineOp α} (keeps : ∀ u, Op.Moves (next u) Session.Keeps) :
      ((Machine.compile l >>= next) m.before).state.machine.cache =
        (Machine.compile l m.before).state.machine.cache := by
    rw [Op.bind_run]
    rcases Machine.compile l m.before with ⟨e | u, s, log⟩
    · rfl
    · exact (keeps u s).frames.cache
  obtain ⟨before, command⟩ := m
  cases command with
  | perform warmup last index =>
    rw [launch?] at launched
    dsimp only at launched
    rcases found : before.machine.program.scan.entries[index]? with _ | ⟨offset, i⟩ <;>
      rw [found] at launched
    · cases launched
    cases i <;> cases launched
    show (MachineCommand.performEntry warmup last before.machine.program.scan.entries[index]?
      before).state.machine.cache = _
    rw [found, MachineCommand.performEntry, Op.map_state]
    cases warmup with
    | true => exact kept fun _ => Op.moves_pure _
    | false => exact kept fun _ => Op.moves_map (Machine.moves_dispatch l)
  | _ => cases launched

/-- What becomes of the binaries where nothing is launched. -/
inductive Idles (m : Moment) : Prop
  | untouched (cache : m.after.machine.cache = m.before.machine.cache)
  | rescheduled (schedule : GridSchedule) (command : m.command = .setSchedule schedule)
      (cache : m.after.machine.cache =
        (Machine.rebuildChanged schedule 0 m.before.context.tasks m.before).state.machine.cache)
  | cleared (command : m.command = .clearCode) (cache : m.after.machine.cache = m.before.machine.cache.clear)
  /-- The event lists are reset before the pass looks at the device. -/
  | started (cache : m.after.machine.cache =
      (Machine.syncEpoch { m.before with machine.lists := m.before.machine.lists.resetAll }).state.machine.cache)

theorem idles (single : m.command.Single) (idle : m.launch? = none) : m.Idles := by
  obtain ⟨s, command⟩ := m
  have kept {op : MachineOp Unit} (keeps : Op.Moves op Session.Keeps) :
      (op s).state.machine.cache = s.machine.cache :=
    (keeps s).frames.cache
  cases command with
  | execute mode => exact single.elim
  | warmup => exact single.elim
  | freeDeviceMemory => exact single.elim
  | forgetBuffers => exact .untouched rfl
  | setConfig config => exact .untouched (kept (Session.keeps_setConfig config))
  | setSchedule schedule =>
    refine .rescheduled schedule rfl ?_
    show (Machine.setSchedule schedule s).state.machine.cache = _
    rw [Machine.setSchedule_state]
  | setProfiler profiler => exact .untouched (kept (Session.keeps_setProfiler profiler))
  | clearCode => exact .cleared rfl rfl
  | startPass => exact .started rfl
  | perform warmup last index =>
    refine .untouched ?_
    show (MachineCommand.performEntry warmup last s.machine.program.scan.entries[index]? s).state.machine.cache = _
    rw [launch?] at idle
    dsimp only at idle
    rcases found : s.machine.program.scan.entries[index]? with _ | ⟨offset, i⟩ <;> rw [found] at idle
    · rfl
    refine kept (Op.moves_map (Machine.survives_stepEntry (fun _ _ => id) last ⟨offset, i⟩ ?_))
    rintro l rfl
    cases idle
  | endPass warmup => exact .untouched (kept (Op.moves_map (Machine.moves_endPass warmup)))
  | concludePass warmup result => exact .untouched (kept (Machine.moves_concludePass warmup result))
  | setFinished finished => exact .untouched (kept (Machine.moves_setFinished finished))
  | dealloc object => exact .untouched (kept (Op.moves_map (Machine.keeps_dealloc object)))

/-- Everything but launches leaves the binaries alone. -/
theorem cache_idle (single : m.command.Single) (steady : m.Steady tasks) (idle : m.launch? = none) :
    m.after.machine.cache = m.before.machine.cache := by
  cases idles single idle with
  | untouched same => exact same
  | rescheduled schedule command cache =>
    rw [cache, Machine.rebuildChanged_idle]
    intro index task known
    rw [Machine.taskFrom_zero, steady.context] at known
    exact steady.scheduled schedule command index task known
  | cleared command _ => exact absurd command steady.uncleared
  | started cache =>
    have current : ({ m.before with machine.lists := m.before.machine.lists.resetAll } : Session).device.epoch =
        m.before.machine.epoch := steady.current
    rw [cache, (Machine.syncEpoch_current current).2]

section Due

variable {task : Task} {grid : Option Grid} {past : List Moment} {request : CompileRequest}

private theorem dueRequest_none (idle : dueRequest task l grid past = none) :
    ¬ CacheSlot.Due task.writesLoopIndex (batches l.task.toNat past) (built l.task.toNat past)
      l.batchThreads.toNat := by
  intro due
  rw [dueRequest, if_pos due] at idle
  cases idle

private theorem dueRequest_some (asks : dueRequest task l grid past = some request) :
    CacheSlot.Due task.writesLoopIndex (batches l.task.toNat past) (built l.task.toNat past)
        l.batchThreads.toNat ∧
      request.taskIndex = l.task.toNat ∧ request.batchThreads = l.batchThreads.toNat := by
  rw [dueRequest] at asks
  split at asks
  · next due =>
    cases asks
    exact ⟨due, rfl, rfl⟩
  · cases asks

end Due

/-! ### What the cache remembers of the past -/

/-- Every slot says what was launched and built of its task, and every compilation of a task but the first
one is counted as a rebuild. -/
structure Recalls (tasks : List Task) (past : List Moment) (c : CodeCache) : Prop where
  slots : ∀ index task, tasks[index]? = some task → ∃ slot : CacheSlot, c.slots[index]? = some slot ∧
    slot.Recalls task.writesLoopIndex (batches index past) (built index past)
  launched : ∀ index, index ∈ compiled past ↔ index < tasks.length ∧ batches index past ≠ []
  count : c.recompilations + (compiled past).dedup.length = (requests past).length

private theorem recalls_create (tasks : List Task) : Recalls tasks [] (.create tasks.length) where
  slots index task known := by
    have within := (List.getElem?_eq_some_iff.1 known).1
    refine ⟨{}, ?_, CacheSlot.recalls_new _⟩
    rw [CodeCache.create, List.getElem?_replicate, if_pos within]
  launched index := by simp [compiled, requests, batches]
  count := rfl

variable {past : List Moment} {c : CodeCache}

/-- What is not a launch of a known task is not remembered. -/
theorem recalls_idle (recalls : Recalls tasks past c) (silent : m.request? = none)
    (unnamed : ∀ index < tasks.length, m.batch? index = none) : Recalls tasks (m :: past) c := by
  have requests : requests (m :: past) = requests past := List.filterMap_cons_none silent
  have batches {index : Nat} (within : index < tasks.length) :
      batches index (m :: past) = batches index past :=
    List.filterMap_cons_none (unnamed index within)
  refine ⟨fun index task known => ?_, fun index => ?_, ?_⟩
  · rw [batches (List.getElem?_eq_some_iff.1 known).1, built, requests]
    exact recalls.slots index task known
  · rw [compiled, requests]
    refine (recalls.launched index).trans (and_congr_right fun within => ?_)
    rw [batches within]
  · rw [compiled, requests]
    exact recalls.count

section Launched

variable {task : Task}

/-- What a launch calls for is what the past makes due. -/
theorem request?_eq (recalls : Recalls tasks past m.before.machine.cache) (steady : m.Steady tasks)
    (launched : m.launch? = some l) (known : tasks[l.task.toNat]? = some task) :
    m.request? = dueRequest task l (m.before.machine.schedule.get? task.id) past := by
  obtain ⟨slot, found, remembered⟩ := recalls.slots _ task known
  rw [request?, launched, Option.bind_some, dueRequest]
  rw [Machine.compilation?_eq (steady.context ▸ known) found rfl]
  by_cases due : CacheSlot.Due task.writesLoopIndex (batches l.task.toNat past) (built l.task.toNat past)
      l.batchThreads.toNat
  · rw [if_pos ((CacheSlot.needsCompile_fit_iff remembered).2 due), if_pos due,
      CacheSlot.batchThreads_fit, CacheSlot.batchNumber_fit, remembered.number,
      CacheSlot.batchSize_fit_recalls remembered, CacheSlot.force_fit_due remembered due]
  · rw [if_neg (mt (CacheSlot.needsCompile_fit_iff remembered).1 due), if_neg due]

/-- What the machine does for a launch of a task before it is dispatched. -/
theorem compile_launched (steady : m.Steady tasks) (launched : m.launch? = some l)
    (known : tasks[l.task.toNat]? = some task) :
    (m.request? = none ∧
        Op.Yields (Machine.compile l) m.before () (Machine.prepared m.before l task)) ∨
      ∃ request, m.request? = some request ∧
        request = Machine.requestOf (Machine.prepared m.before l task) l.task.toNat task ∧
        Op.Yields (Machine.compile l) m.before ()
          (Machine.afterBuild (Machine.prepared m.before l task) l.task.toNat task) := by
  have listed : m.before.context.tasks[l.task.toNat]? = some task := steady.context ▸ known
  have asked : m.request? = Machine.compilation? m.before l := by
    rw [request?, launched]
    rfl
  rcases asks : Machine.compilation? m.before l with _ | request
  · exact .inl ⟨asked.trans asks, Machine.compile_idle steady.current listed asks⟩
  · have accepted := steady.builds request (asked.trans asks)
    exact .inr ⟨request, asked.trans asks,
      Machine.compile_builds steady.current listed asks accepted⟩

/-- Only the history of the task that is launched goes on. -/
theorem batches_launched (launched : m.launch? = some l) (past : List Moment) (index : Nat) :
    batches index (m :: past) =
      if l.task.toNat = index then l.batchThreads.toNat :: batches index past else batches index past := by
  rw [batches, List.filterMap_cons, batch?, launched, Option.bind_some]
  by_cases same : l.task.toNat = index
  · rw [if_pos same, if_pos same]
    rfl
  · rw [if_neg same, if_neg same]
    rfl

private theorem built_launched (past : List Moment) (index : Nat) {request : CompileRequest}
    (asks : m.request? = some request)
    (task : request.taskIndex = l.task.toNat) (threads : request.batchThreads = l.batchThreads.toNat) :
    built index (m :: past) =
      if l.task.toNat = index then
        if l.batchThreads.toNat = 0 then built index past else built index past + 1
      else built index past := by
  rw [built, requests, List.filterMap_cons_some asks, List.countP_cons, task, threads]
  by_cases same : l.task.toNat = index <;> by_cases zero : l.batchThreads.toNat = 0 <;>
    simp [same, zero, built, requests]

/-- The slots remember a launch once that of its task does. -/
theorem slots_launched (recalls : Recalls tasks past m.before.machine.cache)
    (known : tasks[l.task.toNat]? = some task) {c : CodeCache} {new : CacheSlot}
    (slots : c.slots = m.before.machine.cache.slots.set l.task.toNat new)
    (remembers : new.Recalls task.writesLoopIndex (batches l.task.toNat (m :: past))
      (built l.task.toNat (m :: past)))
    (others : ∀ other, l.task.toNat ≠ other →
      batches other (m :: past) = batches other past ∧ built other (m :: past) = built other past) :
    ∀ index task, tasks[index]? = some task → ∃ slot : CacheSlot, c.slots[index]? = some slot ∧
      slot.Recalls task.writesLoopIndex (batches index (m :: past)) (built index (m :: past)) := by
  intro index task' known'
  rw [slots]
  by_cases here : l.task.toNat = index
  · subst here
    cases known.symm.trans known'
    obtain ⟨slot, found, _⟩ := recalls.slots _ task known
    exact ⟨new, List.getElem?_set_self (List.getElem?_eq_some_iff.1 found).1, remembers⟩
  · rw [List.getElem?_set_ne here, (others index here).1, (others index here).2]
    exact recalls.slots index task' known'

/-- A launch that is not due adds its batch to what is remembered. -/
theorem recalls_reused (recalls : Recalls tasks past m.before.machine.cache) (steady : m.Steady tasks)
    (launched : m.launch? = some l) (known : tasks[l.task.toNat]? = some task) (silent : m.request? = none) :
    Recalls tasks (m :: past) (Machine.prepared m.before l task).machine.cache := by
  obtain ⟨slot, found, remembered⟩ := recalls.slots _ task known
  have fits := dueRequest_none ((request?_eq recalls steady launched known).symm.trans silent)
  have unbuilt : requests (m :: past) = requests past := List.filterMap_cons_none silent
  have batches := batches_launched launched past
  refine ⟨slots_launched recalls known (Machine.prepared_slots task found) ?_ ?_, fun index => ?_, ?_⟩
  · rw [batches, if_pos rfl, built, unbuilt]
    exact CacheSlot.recalls_fit remembered fits
  · intro other here
    rw [batches, if_neg here, built, unbuilt]
    exact ⟨rfl, rfl⟩
  · rw [compiled, unbuilt, batches]
    refine (recalls.launched index).trans (and_congr_right fun _ => ?_)
    by_cases here : l.task.toNat = index
    · rw [if_pos here, ← here]
      exact iff_of_true (fun unlaunched => fits (.inl unlaunched)) (List.cons_ne_nil _ _)
    · rw [if_neg here]
  · have unforced : ¬ slot.recompilationNeeded l.batchThreads.toNat task.writesLoopIndex = true :=
      fun forced => fits ((CacheSlot.recompilationNeeded_iff remembered).1 forced).2
    rw [compiled, unbuilt]
    refine Eq.trans ?_ recalls.count
    congr 1
    exact (CodeCache.prepare_recompilations found).trans (by rw [if_neg unforced, Nat.add_zero])

/-- One that is due adds a compilation. -/
theorem recalls_rebuilt (recalls : Recalls tasks past m.before.machine.cache) (steady : m.Steady tasks)
    (launched : m.launch? = some l) (known : tasks[l.task.toNat]? = some task) {request : CompileRequest}
    (asks : m.request? = some request) :
    Recalls tasks (m :: past)
      (Machine.afterBuild (Machine.prepared m.before l task) l.task.toNat task).machine.cache := by
  obtain ⟨slot, found, remembered⟩ := recalls.slots _ task known
  have within := (List.getElem?_eq_some_iff.1 known).1
  obtain ⟨due, index, threads⟩ :=
    dueRequest_some ((request?_eq recalls steady launched known).symm.trans asks)
  have batches := batches_launched launched past
  have built (other : Nat) := built_launched past other asks index threads
  have more : requests (m :: past) = request :: requests past := List.filterMap_cons_some asks
  have ready := Machine.prepared_slot task found
  have slots : (Machine.afterBuild (Machine.prepared m.before l task) l.task.toNat task).machine.cache.slots =
      m.before.machine.cache.slots.set l.task.toNat
        ((slot.fit l.batchThreads.toNat task.writesLoopIndex).install
          (Machine.slotBinary (Machine.prepared m.before l task) l.task.toNat task)
          task.writesLoopIndex) := by
    refine (CodeCache.install_slots _ ready).trans ?_
    rw [Machine.prepared_slots task found, List.set_set]
  refine ⟨slots_launched recalls known slots ?_ ?_, fun other => ?_, ?_⟩
  · rw [batches, if_pos rfl, built, if_pos rfl]
    exact CacheSlot.recalls_install remembered rfl
  · intro other here
    rw [batches, if_neg here, built, if_neg here]
    exact ⟨rfl, rfl⟩
  · rw [compiled, more, List.map_cons, List.mem_cons, index, batches]
    by_cases here : l.task.toNat = other
    · rw [if_pos here]
      exact iff_of_true (.inl here.symm) ⟨here ▸ within, List.cons_ne_nil _ _⟩
    · rw [if_neg here]
      exact (or_iff_right (Ne.symm here)).trans (recalls.launched other)
  · -- The first compilation of a task makes one more task, and any other one more rebuild.
    have count := recalls.count
    have counted : (Machine.afterBuild (Machine.prepared m.before l task) l.task.toNat
        task).machine.cache.recompilations = _ := CodeCache.prepare_recompilations found
    rw [counted, compiled, more, List.map_cons, List.length_cons, index]
    by_cases first : Moment.batches l.task.toNat past = []
    · have new : l.task.toNat ∉ compiled past := fun old => ((recalls.launched _).1 old).2 first
      have unforced : ¬ slot.recompilationNeeded l.batchThreads.toNat task.writesLoopIndex = true :=
        fun forced => ((CacheSlot.recompilationNeeded_iff remembered).1 forced).1 first
      rw [if_neg unforced, show (requests past).map (·.taskIndex) = compiled past from rfl,
        List.dedup_cons_of_notMem new, List.length_cons]
      omega
    · have old : l.task.toNat ∈ compiled past := (recalls.launched _).2 ⟨within, first⟩
      rw [if_pos ((CacheSlot.recompilationNeeded_iff remembered).2 ⟨first, due⟩),
        show (requests past).map (·.taskIndex) = compiled past from rfl, List.dedup_cons_of_mem old]
      omega

/-- A launch of a known task goes into the memory of its slot. -/
theorem recalls_launched (recalls : Recalls tasks past m.before.machine.cache) (steady : m.Steady tasks)
    (launched : m.launch? = some l) (known : tasks[l.task.toNat]? = some task) :
    Recalls tasks (m :: past) m.after.machine.cache := by
  rw [cache_launch launched]
  rcases compile_launched steady launched known with ⟨silent, ran⟩ | ⟨request, asks, _, ran⟩
  · rw [ran.2]
    exact recalls_reused recalls steady launched known silent
  · rw [ran.2]
    exact recalls_rebuilt recalls steady launched known asks

end Launched

/-- Whatever the machine does, the cache remembers it. -/
theorem recalls_after (single : m.command.Single) (steady : m.Steady tasks)
    (recalls : Recalls tasks past m.before.machine.cache) :
    Recalls tasks (m :: past) m.after.machine.cache := by
  rcases launched : m.launch? with _ | l
  · rw [cache_idle single steady launched]
    refine recalls_idle recalls ?_ fun index _ => ?_
    · rw [request?, launched]
      rfl
    · rw [batch?, launched]
      rfl
  rcases known : tasks[l.task.toNat]? with _ | task
  · have unknown : m.before.context.tasks[l.task.toNat]? = none := steady.context ▸ known
    have same : m.after.machine.cache = m.before.machine.cache := by
      rw [cache_launch launched, Machine.compile_current steady.current]
      rcases Machine.fitCode_cases l m.before with ⟨e, _, _, same⟩ | ⟨task, known', _⟩
      · rw [same]
      · rw [Machine.task_ok_iff, unknown] at known'
        cases known'
    rw [same]
    refine recalls_idle recalls ?_ fun index within => ?_
    · rw [request?, launched, Option.bind_some, Machine.compilation?, unknown]
      rfl
    · rw [batch?, launched, Option.bind_some, if_neg]
      rintro rfl
      rw [List.getElem?_eq_some_iff.2 ⟨within, rfl⟩] at known
      cases known
  · exact recalls_launched recalls steady launched known

end Moment

namespace Session

variable {m : Machine} {site : Machine.Site} {config : Config} {past : List Moment} {s : Session}

/-- From a new machine on, the cache remembers what the machine went through. -/
theorem recalls_of_leads (fresh : m.Fresh site config) (leads : Leads ⟨site.1, site.2, m⟩ past s)
    (steady : ∀ moment ∈ past, moment.Steady site.1.tasks) :
    Moment.Recalls site.1.tasks past s.machine.cache := by
  induction leads with
  | here =>
    show Moment.Recalls _ _ m.cache
    rw [fresh.cache]
    exact Moment.recalls_create _
  | work _ command single ih =>
    exact Moment.recalls_after single (steady _ List.mem_cons_self)
      (ih fun moment member => steady moment (List.mem_cons_of_mem _ member))
  | elsewhere _ _ _ _ ih => exact ih steady

/-- Where a single thing began is where those before it led. -/
theorem Leads.before {start : Session} {later earlier : List Moment} {moment : Moment}
    (leads : Leads start past s) (split : past = later ++ moment :: earlier) :
    Leads start earlier moment.before := by
  induction leads generalizing later with
  | here => simp at split
  | work leads command single ih =>
    cases later with
    | nil =>
      cases split
      exact leads
    | cons latest later =>
      cases split
      exact ih rfl
  | elsewhere _ _ _ _ ih => exact ih split

/-- The compilations of a machine from its beginning on, as long as they succeed and nothing but launches
gets in their way. A launch of a task is compiled if it is the first one, or if the one before had another
number of threads that was not zero, or if the task stores its batch number and was compiled for a batch
before. The request is told by the batches of the task so far. And every compilation of a task but its
first is counted as a rebuild. -/
theorem exact_compilations (fresh : m.Fresh site config) (leads : Leads ⟨site.1, site.2, m⟩ past s)
    (steady : ∀ moment ∈ past, moment.Steady site.1.tasks) :
    (∀ later moment earlier l task, past = later ++ moment :: earlier → moment.launch? = some l →
        site.1.tasks[l.task.toNat]? = some task →
          moment.request? =
              Moment.dueRequest task l (moment.before.machine.schedule.get? task.id) earlier ∧
            (Machine.compile l moment.before).result = .ok () ∧
            (Machine.compile l moment.before).state.device =
              moment.request?.elim moment.before.device moment.before.device.afterInstall) ∧
      s.machine.cache.recompilations + (Moment.compiled past).dedup.length =
        (Moment.requests past).length := by
  refine ⟨fun later moment earlier l task split launched known => ?_, (recalls_of_leads fresh leads steady).count⟩
  have member : ∀ m ∈ moment :: earlier, m ∈ past := by
    intro m member
    rw [split]
    exact List.mem_append_right _ member
  have here := steady moment (member _ List.mem_cons_self)
  have recalls := recalls_of_leads fresh (leads.before split)
    fun m earlier => steady m (member m (List.mem_cons_of_mem _ earlier))
  refine ⟨Moment.request?_eq recalls here launched known, ?_⟩
  rcases Moment.compile_launched here launched known with ⟨silent, ran⟩ | ⟨request, asks, same, ran⟩
  · rw [silent, ran.1, ran.2]
    exact ⟨rfl, rfl⟩
  · rw [asks, ran.1, ran.2, same]
    exact ⟨rfl, rfl⟩

/-- Instructions of a pass, the latest first, and where they lead. -/
def performed (start : Session) : List Nat → List Moment × Session
  | [] => ([], start)
  | index :: earlier =>
    let (past, s) := performed start earlier
    (⟨s, .perform false none index⟩ :: past, ((MachineCommand.perform false none index).run s).state)

private theorem leads_performed (start : Session) (indices : List Nat) :
    Leads start (performed start indices).1 (performed start indices).2 := by
  induction indices with
  | nil => exact .here
  | cons index earlier ih => exact .work ih _ trivial

/-- A task that stores the number of its batch, and a program that launches it with 5 threads twice and
then with 3. -/
def countingSite : Machine.Site :=
  ({ name := "counting", tasks := [{ id := "t", kernel := "noop", writesLoopIndex := true }] },
    Device.registerKernel {} "noop" fun _ => .done ())

def countingProgram : Bytes :=
  Assembly.bytes
    { instructions :=
        [.context 0, .beginPass, .launch (Workspace.launchOf 5), .launch (Workspace.launchOf 5),
          .launch (Workspace.launchOf 3), .endPass] }

/-- Two batches of 5 threads and one of 3, and each of the last two is forced. -/
theorem counting_compilations : ∃ (past : List Moment) (s : Session),
    ((Moment.requests past).map fun r => (r.batchThreads, r.batchSize, r.batchNumber, r.force)) =
        [(3, 5, 2, true), (5, 5, 1, true), (5, 5, 0, false)] ∧
      s.machine.cache.recompilations + (Moment.compiled past).dedup.length =
        (Moment.requests past).length := by
  have ran : (Op.success? (Machine.create countingProgram { useDependencies := false })
      countingSite).any (fun made =>
      let past := (performed ⟨made.2.1, made.2.2, made.1⟩ [2, 1, 0]).1
      ((Moment.requests past).map fun r => (r.batchThreads, r.batchSize, r.batchNumber, r.force)) =
          [(3, 5, 2, true), (5, 5, 1, true), (5, 5, 0, false)] ∧
        ∀ moment ∈ past, moment.before.context.tasks = made.2.1.tasks ∧
          moment.before.device.epoch = moment.before.machine.epoch ∧
          (moment.request?.all fun r => (moment.before.device.checkTask r.task).isOk) = true) = true := by
    decide +kernel
  obtain ⟨⟨m, site⟩, made, same⟩ := (Option.any_eq_true _ _).1 ran
  obtain ⟨requests, steady⟩ := of_decide_eq_true same
  have yields : Op.Yields (Machine.create countingProgram { useDependencies := false }) countingSite m site :=
    Op.yields_iff_success?.2 (Option.mem_def.1 made)
  have fresh := Machine.create_fresh yields
  refine ⟨_, _, requests, (exact_compilations fresh (leads_performed _ _) fun moment member => ?_).2⟩
  obtain ⟨context, current, builds⟩ := steady moment member
  have launches : ∃ index, moment.command = .perform false none index := by
    simp only [performed, List.mem_cons, List.not_mem_nil, or_false] at member
    rcases member with rfl | rfl | rfl <;> exact ⟨_, rfl⟩
  obtain ⟨index, command⟩ := launches
  refine ⟨context, current, by simp [command], by simp [command], fun request asks => ?_⟩
  rw [asks] at builds
  rcases accepted : moment.before.device.checkTask request.task with e | ⟨⟩
  · simp [accepted, Except.isOk, Except.toBool] at builds
  · rfl

end Session
end Offload
