import Offload.Proofs.LaunchedBatch

/-! Batch numbers. A task that stores the number of its batch is built again for each of its launches,
and each build counts one more batch. The count belongs to the slot and not to the pass: a replay goes on
where the pass before, or the warmup, left off. -/
namespace Offload

namespace Machine

variable {s t : Session} {l : Launch} {task : Task} {index : Nat} {v : Invocation}

/-- Every launch of the task in a program is batched. -/
def Batched (program : Cursor) (index : Nat) : Prop :=
  ∀ l, program.Launches l → l.task.toNat = index → 0 < l.batchThreads.toNat

/-- Whether an instruction is a launch of a task. -/
def launchesTask (index : Nat) (entry : Entry) : Bool :=
  match entry.instruction with
  | .launch l => l.task.toNat = index
  | _ => false

/-- How many launches of a task are among the instructions. -/
def launchesIn (index : Nat) (entries : List Entry) : Nat :=
  entries.countP (launchesTask index)

/-- The batches counted so far for a task. -/
def countedBatches (s : Session) (index : Nat) : Nat :=
  (s.machine.cache.slot index).batchNumber

/-- A task that stores the batch number and is always launched with a batch has counted the batch of any
good binary, so that the binary is not used again. -/
def SlotNumbered : SlotProperty := fun tasks program index slot =>
  ∀ task, tasks[index]? = some task → task.writesLoopIndex = true → Batched program index →
    slot.code.isSome = true → 0 < slot.batchNumber

private theorem upheld_slotNumbered : Upheld SlotNumbered where
  fresh := by
    intro tasks program index task _ _ _ good
    cases good
  dropped := by
    intro tasks program index slot _ task _ _ _ good
    cases good
  invalidated := by
    intro tasks program index slot _ task _ _ _ good
    rw [CacheSlot.code_invalidate] at good
    cases good
  fitted := by
    intro tasks program slot l task _ known numbered task' known' writes batched good
    rw [CacheSlot.batchNumber_fit]
    rw [CacheSlot.code_fit] at good
    split at good
    · cases good
    · exact numbered task' known' writes batched good
  installed := by
    intro tasks program slot l task code launched known _ _ _ task' known' writes batched _
    rw [known] at known'
    cases known'
    have threads := batched l launched rfl
    rw [CacheSlot.install, writes, CacheSlot.batchThreads_fit, CacheSlot.batchNumber_fit]
    show 0 < if _ then _ else _
    rw [if_pos ⟨rfl, by omega⟩]
    omega

/-- A numbered slot is always built again, and its batch is counted. -/
theorem fit_numbered {slot : CacheSlot} {threads : Nat}
    (numbered : slot.code.isSome = true → 0 < slot.batchNumber) :
    (slot.fit threads true).code = none := by
  rw [CacheSlot.code_fit]
  split
  · rfl
  next fits =>
    rcases held : slot.code with _ | code
    · rfl
    · have counted := numbered (by rw [held]; rfl)
      exact absurd (by simp [CacheSlot.recompilationNeeded, counted]) fits

/-! ### Counting along a pass -/

/-- The batches of a task that were counted between two sessions. -/
def Counted (index count : Nat) (before after : Session) : Prop :=
  ∀ slot', after.machine.cache.slots[index]? = some slot' →
    ∃ slot, before.machine.cache.slots[index]? = some slot ∧
      slot'.batchNumber = slot.batchNumber + count

private theorem counted_of_cache (same : t.machine.cache.slots[index]? = s.machine.cache.slots[index]?) :
    Counted index 0 s t := by
  intro slot' found
  exact ⟨slot', same ▸ found, rfl⟩

private theorem counted_trans {u : Session} {first second : Nat} (earlier : Counted index first s t)
    (later : Counted index second t u) : Counted index (first + second) s u := by
  intro slot' found
  obtain ⟨middle, foundMiddle, sameLater⟩ := later slot' found
  obtain ⟨slot, foundSlot, sameEarlier⟩ := earlier middle foundMiddle
  exact ⟨slot, foundSlot, by omega⟩

private theorem counted_syncEpoch (index : Nat) {u : Unit} (ran : Op.Yields syncEpoch s u t) : Counted index 0 s t := by
  rcases yields_syncEpoch.1 ran with ⟨_, rfl⟩ | ⟨_, _, rfl⟩
  · exact counted_of_cache rfl
  · intro slot' found
    change (s.machine.cache.clear.slots)[index]? = some slot' at found
    rw [CodeCache.clear, List.getElem?_map] at found
    obtain ⟨old, earlier, rfl⟩ := Option.map_eq_some_iff.1 found
    exact ⟨old, earlier, rfl⟩

private theorem counted_keeps (index : Nat) {α : Type} {op : MachineOp α} {a : α} (kept : Op.Moves op Session.Keeps)
    (ran : Op.Yields op s a t) : Counted index 0 s t := by
  have frames := (kept s).frames
  rw [ran.2] at frames
  exact counted_of_cache (by rw [frames.cache])

/-- What counting relies on: the task stores the batch number, the program launches it with batches
only, and the slots are numbered. -/
structure Counting (s : Session) (index : Nat) (task : Task) : Prop where
  known : s.context.tasks[index]? = some task
  writes : task.writesLoopIndex = true
  batched : Batched s.machine.program index
  numbered : s.Slots SlotNumbered

private theorem counting_later (counting : Counting s index task)
    (upholds : Upholds SlotNumbered s.machine.program s t) : Counting t index task where
  known := upholds.continues.tasks ▸ counting.known
  writes := counting.writes
  batched := upholds.continues.program ▸ counting.batched
  numbered := upholds.slots rfl counting.numbered

/-- A launch of the task counts one batch. -/
theorem counted_fitCode {u : Unit} (counting : Counting s l.task.toNat task)
    (threads : 0 < l.batchThreads.toNat) (ran : Op.Yields (fitCode l) s u t) :
    Counted l.task.toNat 1 s t := by
  intro slot' found'
  rcases found : s.machine.cache.slots[l.task.toNat]? with _ | slot
  · have slots := fitCode_absent found
    rw [ran.2] at slots
    rw [slots, found] at found'
    cases found'
  obtain ⟨task', fitted, known', rfl, outcome⟩ := fitCode_slot found ran
  rw [task_ok_iff, counting.known] at known'
  cases known'
  have counted : slot.code.isSome = true → 0 < slot.batchNumber :=
    counting.numbered l.task.toNat slot found task counting.known counting.writes counting.batched
  rw [counting.writes] at outcome
  rcases outcome with ⟨good, _⟩ | ⟨_, code, _, _, _, after⟩
  · rw [fit_numbered counted] at good
    cases good
  rw [after] at found'
  cases found'
  refine ⟨slot, rfl, ?_⟩
  show (if _ then _ else _) = _
  rw [CacheSlot.batchThreads_fit, CacheSlot.batchNumber_fit, if_pos ⟨rfl, by omega⟩]

private theorem counted_compile {u : Unit} (counting : Counting s index task)
    (launched : s.machine.program.Launches l) (ran : Op.Yields (compile l) s u t) :
    Counted index (if l.task.toNat = index then 1 else 0) s t := by
  obtain ⟨_, noticed, synced, fitted⟩ := Op.yields_bind.1 ran
  have first := counted_syncEpoch index synced
  have upholds := upholds_syncEpoch upheld_slotNumbered s.machine.program s
  rw [synced.2] at upholds
  have later := counting_later counting upholds
  have second : Counted index (if l.task.toNat = index then 1 else 0) noticed t := by
    split
    · next same =>
      subst same
      exact counted_fitCode later (counting.batched l launched rfl) fitted
    · next different =>
      rw [← fitted.2]
      exact counted_of_cache (fitCode_other different)
  have both := counted_trans first second
  rwa [Nat.zero_add] at both

private theorem counted_stepEntry {last last' : Option EventId} {entry : Entry}
    (counting : Counting s index task) (member : entry ∈ s.machine.program.scan.entries)
    (ran : Op.Yields (stepEntry false last entry) s last' t) :
    Counted index (if launchesTask index entry then 1 else 0) s t := by
  obtain ⟨offset, i⟩ := entry
  by_cases launch : ∃ l, i = .launch l
  · obtain ⟨l, rfl⟩ := launch
    change Op.Yields (do compile l; some <$> dispatch l) s last' t at ran
    simp only [Op.yields_bind, Op.yields_map] at ran
    obtain ⟨_, middle, compiled, event, dispatched, _⟩ := ran
    have first := counted_compile counting ⟨offset, member⟩ compiled
    have both := counted_trans first (counted_keeps index (moves_dispatch l) dispatched)
    simpa [launchesTask] using both
  · have other : launchesTask index ⟨offset, i⟩ = false := by
      unfold launchesTask
      split
      · next l same => exact absurd ⟨l, same⟩ launch
      · rfl
    rw [other]
    refine counted_keeps index (survives_stepEntry (fun _ _ kept => kept) last ⟨offset, i⟩ ?_) ran
    intro l same
    exact absurd ⟨l, same⟩ launch

private theorem upholds_stepEntry {P : SlotProperty} (upheld : Upheld P) (warmup : Bool)
    (last : Option EventId) {entry : Entry} (member : entry ∈ s.machine.program.scan.entries) :
    Upholds P s.machine.program s (stepEntry warmup last entry s).state := by
  refine survives_stepEntry upholds_of_keeps last entry (fun l launch => ?_) s
  obtain ⟨offset, i⟩ := entry
  exact upholds_compile upheld ⟨offset, launch ▸ member⟩

/-- Along a prefix of a pass, each launch of the task counts one batch. -/
theorem counted_runPrefix {last last' : Option EventId} {done : List Entry}
    (counting : Counting s index task)
    (members : ∀ e ∈ done, e ∈ s.machine.program.scan.entries)
    (ran : Op.Yields (runPrefix false last done) s last' t) :
    Counted index (launchesIn index done) s t ∧ Counting t index task := by
  induction done generalizing s last with
  | nil =>
    simp only [runPrefix, Op.yields_pure] at ran
    obtain ⟨_, rfl⟩ := ran
    exact ⟨counted_of_cache rfl, counting⟩
  | cons entry rest ih =>
    simp only [runPrefix, Op.yields_bind] at ran
    obtain ⟨_, traced, tracing, next, stepped, stepping, remaining⟩ := ran
    have quiet := moves_traceEntry (R := Session.Keeps) false entry s
    rw [tracing.2] at quiet
    have countingTraced := counting_later counting (upholds_of_keeps s traced quiet)
    have program := quiet.frames.program
    have member : entry ∈ traced.machine.program.scan.entries := program ▸ members entry (by simp)
    have upholds := upholds_stepEntry upheld_slotNumbered false last member
    rw [stepping.2] at upholds
    have one := counted_trans (counted_keeps index (moves_traceEntry false entry) tracing)
      (counted_stepEntry countingTraced member stepping)
    obtain ⟨others, countingAfter⟩ := ih (counting_later countingTraced upholds)
      (fun e later => upholds.continues.program ▸ program ▸ members e (by simp [later])) remaining
    refine ⟨?_, countingAfter⟩
    have all := counted_trans one others
    rw [launchesIn, List.countP_cons]
    rwa [Nat.zero_add, Nat.add_comm] at all

private theorem counted_arrives {last : Option EventId} {done : List Entry} (counting : Counting s index task)
    (members : ∀ e ∈ done, e ∈ s.machine.program.scan.entries) (arrives : Arrives s done last t) :
    Counted index (launchesIn index done) s t ∧ Counting t index task := by
  obtain ⟨_, started, starting, running⟩ := Op.yields_bind.1 arrives
  have upholds := survives_startPass upholds_of_keeps
    (upholds_syncEpoch upheld_slotNumbered s.machine.program) s
  rw [starting.2] at upholds
  obtain ⟨_, emptied, emptying, syncing⟩ := Op.yields_bind.1 starting
  have first := counted_trans (counted_keeps index moves_resetAll emptying)
    (counted_syncEpoch index syncing)
  obtain ⟨rest, counting'⟩ := counted_runPrefix (counting_later counting upholds)
    (fun e member => upholds.continues.program ▸ members e member) running
  refine ⟨?_, counting'⟩
  have all := counted_trans first rest
  rwa [Nat.zero_add] at all

/-- A launch of the task is given the number of batches counted before it. -/
theorem invoked_batchNumber (counting : Counting s l.task.toNat task) (invoked : Invokes s l v) :
    ∃ slot, s.machine.cache.slots[l.task.toNat]? = some slot ∧ v.batchNumber = slot.batchNumber := by
  obtain ⟨code, b, t, kernel, ran, _, rfl⟩ := invoked
  obtain ⟨fit, _, compiled, _, held, _⟩ := prepareLaunch_binds ran
  obtain ⟨old, slot, task', found, rfl, known, outcome⟩ := compile_code compiled held
  rw [task_ok_iff, counting.known] at known
  cases known
  refine ⟨old, found, ?_⟩
  have number : (noticedSlot s old).batchNumber = old.batchNumber := by
    unfold noticedSlot
    split <;> rfl
  rcases outcome with ⟨good, fits, _⟩ | ⟨_, _, counted, _⟩
  · obtain ⟨-, same⟩ := noticedSlot_eq good
    rw [same] at good fits
    have positive := counting.numbered l.task.toNat old found task counting.known counting.writes
      counting.batched (by rw [good]; rfl)
    rw [counting.writes] at fits
    simp [CacheSlot.recompilationNeeded] at fits
    omega
  · exact counted.trans number

private theorem countedBatches_eq {slot : CacheSlot} (found : s.machine.cache.slots[index]? = some slot) :
    countedBatches s index = slot.batchNumber := by
  rw [countedBatches, CodeCache.slot_eq found]

end Machine

namespace Workspace

open Machine

variable {w : Workspace} {seat device index offset : Nat} {s t : Session} {l : Launch} {task : Task}
  {done rest : List Entry} {last : Option EventId} {v : Invocation}

/-- In every history, a launch of a task that stores the batch number is given the batches that were
counted before the pass and those of the pass before it; so it is given those of the pass alone
exactly if no batch was counted before the pass. -/
theorem launched_batchNumber (reachable : w.Reachable) (present : w.session? seat = some (device, s))
    (known : s.context.task l.task.toNat = .ok task) (writes : task.writesLoopIndex = true)
    (batched : Batched s.machine.program l.task.toNat)
    (split : s.machine.program.scan.entries = done ++ ⟨offset, .launch l⟩ :: rest)
    (arrives : Arrives s done last t) (invoked : Invokes t l v) :
    v.batchNumber = countedBatches s l.task.toNat + launchesIn l.task.toNat done ∧
      (v.batchNumber = launchesIn l.task.toNat done ↔ countedBatches s l.task.toNat = 0) := by
  have counting : Counting s l.task.toNat task :=
    ⟨task_ok_iff.1 known, writes, batched, slots_of_reachable upheld_slotNumbered reachable present⟩
  have members : ∀ e ∈ done, e ∈ s.machine.program.scan.entries := by
    intro e member
    rw [split]
    exact List.mem_append_left _ member
  obtain ⟨counted, countingThere⟩ := counted_arrives counting members arrives
  obtain ⟨slot', found', number⟩ := invoked_batchNumber countingThere invoked
  obtain ⟨slot, found, sum⟩ := counted slot' found'
  rw [countedBatches_eq found]
  omega

def storingTask : Task :=
  { id := "t", kernel := "noop", writesLoopIndex := true }

/-- A machine that was warmed up; its task stores the batch number and is launched once. -/
def warmedUp : Workspace :=
  let program := Assembly.bytes
    { instructions := [.context 0, .beginPass, .launch (launchOf 4), .endPass] }
  let start : Workspace :=
    { context := { name := "warmed up", tasks := [storingTask] }
      devices := [Device.registerKernel {} "noop" fun _ => .done ()] }
  let built := (start.build 0 program { useDependencies := false }).state
  (built.onMachine 0 MachineCommand.warmup.run).state

private theorem warmedUp_reachable : warmedUp.Reachable := by
  refine .step ?_ (.machine _ 0 .warmup)
  refine .step ?_ (.build _ 0 _ _)
  exact .start _ _ rfl

private theorem warmedUp_invokes : ∃ s t v, warmedUp.session? 0 = some (0, s) ∧
    s.context.tasks = [storingTask] ∧
    s.machine.program.scan.entries = [⟨18, .launch (launchOf 4)⟩, ⟨51, .endPass⟩] ∧
    Arrives s [] none t ∧ Invokes t (launchOf 4) v ∧ v.batchNumber = 1 := by
  have ran : (warmedUp.session? 0).bind (fun seated =>
      (Op.success? (do startPass; runPrefix false none []) seated.2).bind fun arrived =>
        (invocation? arrived.2 (launchOf 4)).map fun v =>
          (seated.1, seated.2.context.tasks, seated.2.machine.program.scan.entries, arrived.1,
            v.batchNumber)) =
      some (0, [storingTask], [⟨18, .launch (launchOf 4)⟩, ⟨51, .endPass⟩], none, 1) := by
    decide +kernel
  obtain ⟨⟨device, s⟩, present, arrived⟩ := Option.bind_eq_some_iff.1 ran
  obtain ⟨⟨last, t⟩, arrives, called⟩ := Option.bind_eq_some_iff.1 arrived
  obtain ⟨v, invoked, same⟩ := Option.map_eq_some_iff.1 called
  simp only [Prod.mk.injEq] at same
  obtain ⟨rfl, tasks, entries, rfl, number⟩ := same
  exact ⟨s, t, v, present, tasks, entries, Op.yields_iff_success?.2 arrives,
    invokes_iff.2 invoked, number⟩

private theorem warmedUp_batched {program : Cursor}
    (entries : program.scan.entries = [⟨18, .launch (launchOf 4)⟩, ⟨51, .endPass⟩]) :
    Batched program 0 := by
  rintro l ⟨offset, member⟩ _
  rw [entries] at member
  simp only [List.mem_cons, Entry.mk.injEq, Instruction.launch.injEq, reduceCtorEq, and_false,
    List.not_mem_nil, or_false] at member
  rw [member.2]
  decide

/-- The first launch after the warmup is given the batch of the warmup. -/
theorem warmedUp_counts : ∃ s t v, warmedUp.session? 0 = some (0, s) ∧ Arrives s [] none t ∧
    Invokes t (launchOf 4) v ∧ v.batchNumber = 1 ∧ countedBatches s 0 = 1 := by
  obtain ⟨s, t, v, present, tasks, entries, arrives, invoked, number⟩ := warmedUp_invokes
  have known : s.context.task (launchOf 4).task.toNat = .ok storingTask := by
    rw [task_ok_iff, tasks]
    rfl
  have exact := launched_batchNumber warmedUp_reachable present known rfl (warmedUp_batched entries)
    entries arrives invoked
  have sum := exact.1
  rw [number] at sum
  exact ⟨s, t, v, present, arrives, invoked, number, sum.symm⟩

/-- So the number that a launch is given is not always the number of its batch in the pass. -/
theorem batchNumber_not_of_pass : ¬ ∀ (w : Workspace) (seat device offset : Nat) (s t : Session)
    (l : Launch) (task : Task) (done rest : List Entry) (last : Option EventId) (v : Invocation),
      w.Reachable → w.session? seat = some (device, s) →
      s.context.task l.task.toNat = .ok task → task.writesLoopIndex = true →
      Batched s.machine.program l.task.toNat →
      s.machine.program.scan.entries = done ++ ⟨offset, .launch l⟩ :: rest →
      Arrives s done last t → Invokes t l v → v.batchNumber = launchesIn l.task.toNat done := by
  intro claim
  obtain ⟨s, t, v, present, tasks, entries, arrives, invoked, number⟩ := warmedUp_invokes
  have known : s.context.task (launchOf 4).task.toNat = .ok storingTask := by
    rw [task_ok_iff, tasks]
    rfl
  have same := claim _ _ _ _ s t _ _ [] _ _ v warmedUp_reachable present known rfl
    (warmedUp_batched entries) entries arrives invoked
  rw [number] at same
  cases same

end Workspace
end Offload
