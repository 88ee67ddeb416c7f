import Offload.Proofs.CompileHistory

/-! The count of rebuilds. A machine counts a rebuild when it finds that one is due, and marks the slot of the
task; the next compilation of the task is forced and takes the mark off. While a slot is marked it has no
good binary, so a change of the grid or of the number of threads does not ask for another rebuild. A task
that stores the number of its batch is different. A launch that finds its rebuild pending counts it once
more, and each such launch puts the count one further ahead of the rebuilds. -/
namespace Offload

namespace CacheSlot

variable {slot : CacheSlot} {threads : Nat} {storing : Bool} {code : Binary}

/-- A slot whose rebuild is pending has no good binary. -/
def Orderly (slot : CacheSlot) : Prop :=
  slot.force = true → slot.code = none

/-- The slot shows that the task was compiled before. -/
def wasBuilt (slot : CacheSlot) : Bool :=
  slot.force || slot.code.isSome || 0 < slot.batchNumber

/-- A launch counts the rebuild that is pending once more. -/
def recounts (slot : CacheSlot) (storing : Bool) : Bool :=
  slot.force && 0 < slot.batchNumber && storing

private theorem orderly_fit (orderly : slot.Orderly) : (slot.fit threads storing).Orderly := by
  intro marked
  rw [code_fit]
  split
  · rfl
  · next idle =>
    rw [force_fit, if_neg idle] at marked
    exact orderly marked

/-- A fit counts as many rebuilds as it marks, and one that is pending if it counts it again. -/
theorem force_fit_count (orderly : slot.Orderly) :
    (if slot.recompilationNeeded threads storing then 1 else 0) + slot.force.toNat =
      (slot.fit threads storing).force.toNat + (slot.recounts storing).toNat := by
  rw [force_fit, recounts]
  rcases marked : slot.force with _ | _
  · by_cases needed : slot.recompilationNeeded threads storing = true <;> simp [needed]
  · have needed : slot.recompilationNeeded threads storing = (decide (0 < slot.batchNumber) && storing) := by
      rw [recompilationNeeded, orderly marked]
      rfl
    by_cases again : (decide (0 < slot.batchNumber) && storing) = true <;> simp [needed, again]

/-- What a fit is about has been built. -/
theorem wasBuilt_fit (built : (slot.fit threads storing).wasBuilt = true) : slot.wasBuilt = true := by
  by_cases needed : slot.recompilationNeeded threads storing = true
  · simp only [recompilationNeeded, Bool.or_eq_true, Bool.and_eq_true] at needed
    simp only [wasBuilt, Bool.or_eq_true]
    rcases needed with ⟨⟨compiled, _⟩, _⟩ | ⟨counted, _⟩
    · exact .inl (.inr compiled)
    · exact .inr counted
  · rw [wasBuilt, force_fit, if_neg needed, code_fit, if_neg needed, batchNumber_fit] at built
    exact built

end CacheSlot

namespace CodeCache

variable {c c' c'' : CodeCache} {slot new : CacheSlot} {index threads : Nat} {storing : Bool}
  {forced first again : Nat}

/-- How many rebuilds are pending. -/
def pending (c : CodeCache) : Nat :=
  c.slots.countP CacheSlot.force

/-- How many tasks show that they were compiled before. -/
def started (c : CodeCache) : Nat :=
  c.slots.countP CacheSlot.wasBuilt

def Orderly (c : CodeCache) : Prop :=
  ∀ slot ∈ c.slots, slot.Orderly

/-- From one cache to the next there are so many forced builds and so many that are not, and pending
rebuilds are counted again so many times. -/
structure Tallies (forced first again : Nat) (before after : CodeCache) : Prop where
  orderly : before.Orderly → after.Orderly
  count : before.Orderly →
    after.recompilations + before.pending = before.recompilations + after.pending + forced + again
  started : after.started ≤ before.started + first

private theorem Tallies.refl (c : CodeCache) : Tallies 0 0 0 c c :=
  ⟨id, fun _ => rfl, Nat.le_refl _⟩

private theorem Tallies.trans {forced' first' again' : Nat} (one : Tallies forced first again c c')
    (two : Tallies forced' first' again' c' c'') :
    Tallies (forced + forced') (first + first') (again + again') c c'' where
  orderly orderly := two.orderly (one.orderly orderly)
  count orderly := by
    have counted := one.count orderly
    have counted' := two.count (one.orderly orderly)
    omega
  started := by
    have some := one.started
    have more := two.started
    omega

private theorem pending_le_started (c : CodeCache) : c.pending ≤ c.started :=
  List.countP_mono_left fun slot _ marked => by simp [CacheSlot.wasBuilt, marked]

private theorem countP_set_add {α : Type} {p : α → Bool} {l : List α} {i : Nat} {old : α} (new : α)
    (found : l[i]? = some old) :
    (l.set i new).countP p + (p old).toNat = l.countP p + (p new).toNat := by
  have indicator (b : Bool) : (if b = true then 1 else 0) = b.toNat := by cases b <;> rfl
  obtain ⟨inside, same⟩ := List.getElem?_eq_some_iff.1 found
  have counted := List.countP_set (p := p) (a := new) inside
  rw [same, indicator, indicator] at counted
  have among : (p old).toNat ≤ l.countP p := by
    rcases holds : p old with _ | _
    · exact Nat.zero_le _
    · exact List.countP_pos_iff.2 ⟨old, List.mem_of_getElem? found, holds⟩
  omega

/-- One slot is replaced, and a rebuild is counted or not. -/
theorem tallies_set {counted : Nat} (found : c.slots[index]? = some slot) (slots : c'.slots = c.slots.set index new)
    (recompilations : c'.recompilations = c.recompilations + counted) (orderly : slot.Orderly → new.Orderly)
    (balance : slot.Orderly → counted + slot.force.toNat = new.force.toNat + forced + again)
    (built : new.wasBuilt = true → slot.wasBuilt = true ∨ 0 < first) : Tallies forced first again c c' where
  orderly all other member := by
    rw [slots] at member
    rcases List.mem_or_eq_of_mem_set member with kept | rfl
    · exact all other kept
    · exact orderly (all slot (List.mem_of_getElem? found))
  count all := by
    have marked : c'.pending + _ = c.pending + _ :=
      (congrArg (fun slots : List CacheSlot => slots.countP CacheSlot.force + slot.force.toNat) slots).trans
        (countP_set_add new found)
    have balanced := balance (all slot (List.mem_of_getElem? found))
    omega
  started := by
    have shown : c'.started + _ = c.started + _ :=
      (congrArg (fun slots : List CacheSlot => slots.countP CacheSlot.wasBuilt + slot.wasBuilt.toNat) slots).trans
        (countP_set_add new found)
    have within : new.wasBuilt.toNat ≤ slot.wasBuilt.toNat + first := by
      rcases shows : new.wasBuilt with _ | _
      · exact Nat.zero_le _
      · rcases built shows with earlier | one
        · rw [earlier]
          exact Nat.le_add_right _ _
        · exact Nat.le_trans one (Nat.le_add_left _ _)
    omega

/-- A launch takes over its batch: what it marks is counted, and what it counts again. -/
theorem tallies_prepare (c : CodeCache) (index threads : Nat) (storing : Bool) :
    Tallies 0 0 ((c.slots[index]?).any fun slot => slot.recounts storing).toNat c
      (c.prepare index threads storing).2 := by
  rcases found : c.slots[index]? with _ | slot
  · rw [prepare_absent found]
    exact .refl c
  refine tallies_set found (prepare_slots found) (prepare_recompilations found) CacheSlot.orderly_fit
    (fun orderly => ?_) fun built => .inl (CacheSlot.wasBuilt_fit built)
  rw [CacheSlot.force_fit_count orderly, Nat.add_zero]
  rfl

/-- A build takes the mark off, or it is not a forced one. -/
theorem tallies_install (c : CodeCache) (index : Nat) (code : Binary) (storing : Bool) :
    Tallies (c.slot index).force.toNat (!(c.slot index).force).toNat 0 c (c.install index code storing) := by
  have same : (c.install index code storing).recompilations = c.recompilations + 0 := rfl
  rcases found : c.slots[index]? with _ | slot
  · have unchanged : c.install index code storing = c := by
      rw [install, List.modify_eq_self (List.getElem?_eq_none_iff.1 found)]
    have unmarked : (c.slot index).force = false := by
      rw [slot, found]
      rfl
    rw [unchanged, unmarked]
    exact ⟨id, fun _ => rfl, Nat.le_succ _⟩
  rw [slot_eq found]
  refine tallies_set found (install_slots code found) same (fun _ marked => absurd marked Bool.false_ne_true)
    (fun _ => ?_) fun _ => ?_
  · show 0 + slot.force.toNat = 0 + slot.force.toNat + 0
    omega
  · rcases marked : slot.force with _ | _
    · exact .inr Nat.one_pos
    · exact .inl (by simp [CacheSlot.wasBuilt, marked])

private theorem tallies_forceRecompile (c : CodeCache) (index : Nat) : Tallies 0 0 0 c (c.forceRecompile index) := by
  unfold forceRecompile
  rcases found : c.slots[index]? with _ | slot
  · exact .refl c
  dsimp only
  by_cases compiled : slot.code.isSome
  · rw [if_pos compiled]
    refine tallies_set found rfl rfl (fun _ _ => CacheSlot.code_invalidate slot) (fun orderly => ?_)
      fun _ => .inl (by simp [CacheSlot.wasBuilt, compiled])
    · have unmarked : slot.force = false := by
        rcases marked : slot.force with _ | _
        · rfl
        · rw [orderly marked] at compiled
          cases compiled
      rw [unmarked]
      rfl
  · rw [if_neg compiled]
    exact .refl c

private theorem tallies_clear (c : CodeCache) : Tallies 0 0 0 c c.clear where
  orderly _ slot member := by
    obtain ⟨old, _, rfl⟩ := List.mem_map.1 member
    exact fun _ => rfl
  count _ := by
    rw [show c.clear.pending = c.pending from List.countP_map]
    rfl
  started := by
    rw [started, clear, List.countP_map]
    refine List.countP_mono_left fun slot _ built => ?_
    rcases Bool.or_eq_true_iff.1 built with shown | counted
    · have marked : slot.force = true := by simpa [CacheSlot.code] using shown
      simp [CacheSlot.wasBuilt, marked]
    · simp [CacheSlot.wasBuilt, of_decide_eq_true counted]

end CodeCache

namespace Session

variable {s t u : Session} {again again' : Nat}

/-- From one session to the next pending rebuilds are counted again so many times, and what was built is in
the log of the device. -/
def Tallies (again : Nat) (s t : Session) : Prop :=
  ∃ records, t.device.compileLog = s.device.compileLog ++ records ∧
    CodeCache.Tallies (records.countP CompileRecord.forced) (records.countP fun r => !r.forced) again
      s.machine.cache t.machine.cache

/-- Nothing is built. -/
theorem tallies_unbuilt (log : t.device.compileLog = s.device.compileLog)
    (cache : CodeCache.Tallies 0 0 again s.machine.cache t.machine.cache) : Tallies again s t :=
  ⟨[], by rw [log, List.append_nil], cache⟩

private theorem Tallies.trans (one : Tallies again s t) (two : Tallies again' t u) : Tallies (again + again') s u := by
  obtain ⟨records, log, tallies⟩ := one
  obtain ⟨records', log', tallies'⟩ := two
  refine ⟨records ++ records', by rw [log', log, List.append_assoc], ?_⟩
  rw [List.countP_append, List.countP_append]
  exact tallies.trans tallies'

end Session

namespace Machine
open Session (Tallies tallies_unbuilt)

variable {s t : Session} {l : Launch}

private theorem tallies_buildCode (index : Nat) (task : Task) (s : Session) :
    Tallies 0 s (buildCode index task s).state := by
  rcases buildCode_cases s index task with ⟨e, _, _, same⟩ | ⟨_, _, built⟩
  · rw [same]
    exact tallies_unbuilt rfl (.refl _)
  · rw [built]
    refine ⟨_, rfl, ?_⟩
    have installed := CodeCache.tallies_install s.machine.cache index (slotBinary s index task) task.writesLoopIndex
    rw [List.countP_singleton, List.countP_singleton]
    show CodeCache.Tallies (if (s.machine.cache.slot index).force = true then 1 else 0)
      (if (!(s.machine.cache.slot index).force) = true then 1 else 0) 0 _ _
    rcases marked : (s.machine.cache.slot index).force with _ | _ <;> rw [marked] at installed <;> exact installed

/-- A launch counts the rebuild that is pending once more. -/
def recounts (s : Session) (l : Launch) : Bool :=
  (s.context.tasks[l.task.toNat]?).any fun task =>
    (s.machine.cache.slots[l.task.toNat]?).any fun slot => slot.recounts task.writesLoopIndex

private theorem tallies_fitCode (l : Launch) (s : Session) : Tallies (recounts s l).toNat s (fitCode l s).state := by
  rcases fitCode_cases l s with ⟨e, unknown, _, same⟩ | ⟨task, known, outcome⟩
  · have absent : s.context.tasks[l.task.toNat]? = none := by
      rcases found : s.context.tasks[l.task.toNat]? with _ | task
      · rfl
      · rw [task_ok_iff.2 found] at unknown
        cases unknown
    rw [same, recounts, absent]
    exact tallies_unbuilt rfl (.refl _)
  have fitted : Tallies (recounts s l).toNat s (prepared s l task) := by
    refine tallies_unbuilt rfl ?_
    rw [recounts, task_ok_iff.1 known]
    exact CodeCache.tallies_prepare _ _ _ _
  rcases outcome with ⟨_, _, same⟩ | ⟨_, _, same⟩
  · rw [same]
    exact fitted
  · rw [same]
    exact fitted.trans (tallies_buildCode _ _ _)

/-- Unless a reset is fatal, a launch gets as far as its fit. -/
def fits (s : Session) : Bool :=
  s.device.epoch = s.machine.epoch || !s.machine.finishedWarmup

/-- The notice of a reset leaves pending what is pending. -/
theorem recounts_afterNotice (s : Session) (l : Launch) : recounts (afterNotice s) l = recounts s l := by
  show ((s.context.tasks[l.task.toNat]?).any fun task =>
    (s.machine.cache.clear.slots[l.task.toNat]?).any fun slot => slot.recounts task.writesLoopIndex) = _
  rw [CodeCache.clear, List.getElem?_map]
  rcases found : s.machine.cache.slots[l.task.toNat]? with _ | slot <;> rw [recounts, found] <;> rfl

private theorem tallies_compile (l : Launch) (s : Session) :
    Tallies (fits s && recounts s l).toNat s (compile l s).state := by
  rcases compile_state l s with ⟨reset, finished, state⟩ | ⟨reset, unfinished, state⟩ | ⟨current, state⟩ <;>
    rw [state]
  · have stops : fits s = false := by simp [fits, reset, finished]
    rw [stops]
    exact tallies_unbuilt rfl (.refl _)
  · have goes : fits s = true := by simp [fits, unfinished]
    rw [goes, Bool.true_and, ← recounts_afterNotice, ← Nat.zero_add (recounts _ _).toNat]
    have cleared : Tallies 0 s (afterNotice s) := tallies_unbuilt rfl (CodeCache.tallies_clear _)
    exact cleared.trans (tallies_fitCode l _)
  · have goes : fits s = true := by simp [fits, current]
    rw [goes, Bool.true_and]
    exact tallies_fitCode l s

/-- A change of the schedule counts each rebuild that it asks for. -/
theorem tallies_rebuildChanged (schedule : GridSchedule) (tasks : List Task) (first : Nat) (s : Session) :
    CodeCache.Tallies 0 0 0 s.machine.cache (rebuildChanged schedule first tasks s).state.machine.cache := by
  induction tasks generalizing first s with
  | nil => exact .refl _
  | cons task rest ih =>
    unfold rebuildChanged
    rw [Op.get_bind]
    split
    · exact ih _ s
    · exact (CodeCache.tallies_forceRecompile _ first).trans
        (ih _ { s with machine.cache := s.machine.cache.forceRecompile first })

private theorem tallies_syncEpoch (s : Session) :
    CodeCache.Tallies 0 0 0 s.machine.cache (syncEpoch s).state.machine.cache := by
  by_cases current : s.device.epoch = s.machine.epoch
  · rw [(syncEpoch_current current).2]
    exact .refl _
  rcases finished : s.machine.finishedWarmup with _ | _
  · rw [(syncEpoch_notice current finished).2]
    exact CodeCache.tallies_clear _
  · rw [(syncEpoch_fatal current finished).2]
    exact .refl _

end Machine

namespace Moment

variable {m : Moment} {past : List Moment}

/-- What the compilation of a launch adds to the log of the device. -/
def records (m : Moment) : List CompileRecord :=
  m.launch?.elim [] fun l =>
    (Machine.compile l m.before).state.device.compileLog.drop m.before.device.compileLog.length

/-- All that was built, the latest first. -/
def builds (past : List Moment) : List CompileRecord :=
  past.flatMap records

def forcedBuilds (past : List Moment) : Nat :=
  (builds past).countP CompileRecord.forced

/-- A launch that counts a rebuild once more that is pending already. -/
def recounts (m : Moment) : Bool :=
  m.launch?.any fun l => Machine.fits m.before && Machine.recounts m.before l

/-- Without a launch nothing is built, and nothing is counted again. -/
theorem tallies_idle (single : m.command.Single) (idle : m.launch? = none) :
    CodeCache.Tallies 0 0 0 m.before.machine.cache m.after.machine.cache := by
  cases idles single idle with
  | untouched same =>
    rw [same]
    exact .refl _
  | rescheduled schedule _ cache =>
    rw [cache]
    exact Machine.tallies_rebuildChanged schedule _ 0 m.before
  | cleared _ cache =>
    rw [cache]
    exact CodeCache.tallies_clear _
  | started cache =>
    rw [cache]
    exact Machine.tallies_syncEpoch { m.before with machine.lists := m.before.machine.lists.resetAll }

/-- What a launch compiles goes well. -/
def Builds (m : Moment) : Prop :=
  ∀ l, m.launch? = some l → (Machine.compile l m.before).result = .ok ()

private theorem builds_of_success
    (succeeds : (m.launch?.all fun l => (Op.success? (Machine.compile l) m.before).isSome) = true) :
    m.Builds := by
  intro l launched
  rw [launched] at succeeds
  obtain ⟨⟨⟨⟩, t⟩, ran⟩ := Option.isSome_iff_exists.1 succeeds
  exact (Op.yields_iff_success?.2 ran).1

/-- What a single thing does to the count. -/
theorem tallies (m : Moment) (single : m.command.Single) :
    CodeCache.Tallies (m.records.countP CompileRecord.forced) (m.records.countP fun r => !r.forced)
      m.recounts.toNat m.before.machine.cache m.after.machine.cache := by
  rcases launched : m.launch? with _ | l
  · rw [records, recounts, launched]
    exact tallies_idle single launched
  · obtain ⟨records, log, tallies⟩ := Machine.tallies_compile l m.before
    rw [cache_launch launched, Moment.records, recounts, launched, Option.elim_some, log, List.drop_left]
    exact tallies

end Moment

namespace Session

variable {past : List Moment} {s : Session}

/-- From a new machine on, the count goes with what was built, what is pending and what was counted again. -/
theorem tallies_of_leads {start : Session} (leads : Leads start past s) :
    CodeCache.Tallies (Moment.forcedBuilds past) ((Moment.builds past).countP fun r => !r.forced)
      (past.countP Moment.recounts) start.machine.cache s.machine.cache := by
  induction leads with
  | here => exact .refl _
  | @work past s _ command single ih =>
    have more := ih.trans (Moment.tallies ⟨s, command⟩ single)
    have again : (Moment.recounts ⟨s, command⟩).toNat = if Moment.recounts ⟨s, command⟩ = true then 1 else 0 :=
      Bool.cond_eq_ite _ 1 0
    rw [again] at more
    rw [Moment.forcedBuilds, Moment.builds, List.flatMap_cons, List.countP_append, List.countP_append,
      List.countP_cons, Nat.add_comm (List.countP _ _) (List.countP _ (List.flatMap _ _)),
      Nat.add_comm (List.countP _ (Moment.records _))]
    exact more
  | elsewhere _ _ _ _ ih => exact ih

private theorem tallies_of_lives (lives : Lives past s) :
    s.machine.cache.recompilations =
        Moment.forcedBuilds past + s.machine.cache.pending + past.countP Moment.recounts ∧
      s.machine.cache.started ≤ (Moment.builds past).countP fun r => !r.forced := by
  obtain ⟨m, site, config, fresh, leads⟩ := lives
  have tallies := tallies_of_leads leads
  have cache : (⟨site.1, site.2, m⟩ : Session).machine.cache = .create site.1.tasks.length := fresh.cache
  rw [cache] at tallies
  have unmarked : (CodeCache.create site.1.tasks.length).pending = 0 := by
    rw [CodeCache.pending, CodeCache.create, List.countP_replicate]
    rfl
  have unbuilt : (CodeCache.create site.1.tasks.length).started = 0 := by
    rw [CodeCache.started, CodeCache.create, List.countP_replicate]
    rfl
  have orderly : (CodeCache.create site.1.tasks.length).Orderly := fun slot member => by
    rw [List.eq_of_mem_replicate member]
    exact fun _ => rfl
  have none : (CodeCache.create site.1.tasks.length).recompilations = 0 := rfl
  have count := tallies.count orderly
  have started := tallies.started
  omega

/-- The rebuilds that a machine has counted are those that were built, those that are pending, and one more
for each launch that has counted a pending one again. So the count is within the rebuilds if there was no
such launch, and only then. As long as there is none, no more rebuilds are counted than binaries were
built. -/
theorem rebuilds_counted (lives : Lives past s) :
    s.machine.cache.recompilations =
        Moment.forcedBuilds past + s.machine.cache.pending + past.countP Moment.recounts ∧
      (s.machine.cache.recompilations ≤ Moment.forcedBuilds past + s.machine.cache.pending ↔
        ∀ m ∈ past, m.recounts = false) ∧
      ((∀ m ∈ past, m.recounts = false) → s.machine.cache.recompilations ≤ (Moment.builds past).length) := by
  obtain ⟨count, started⟩ := tallies_of_lives lives
  have never : past.countP Moment.recounts = 0 ↔ ∀ m ∈ past, m.recounts = false := by
    simp only [List.countP_eq_zero, Bool.not_eq_true]
  refine ⟨count, ?_, fun none => ?_⟩
  · rw [← never]
    omega
  · have within := CodeCache.pending_le_started s.machine.cache
    have split : (Moment.builds past).length = _ :=
      List.length_eq_countP_add_countP CompileRecord.forced
    have zero := never.2 none
    simp only [Bool.not_eq_true, Bool.decide_eq_false] at split
    rw [Moment.forcedBuilds] at count
    omega

/-- Single things, the latest first, and where they lead. -/
def lived (start : Session) : List MachineCommand → List Moment × Session
  | [] => ([], start)
  | command :: earlier =>
    let (past, s) := lived start earlier
    (⟨s, command⟩ :: past, (command.run s).state)

private theorem leads_lived (start : Session) {commands : List MachineCommand} (single : ∀ c ∈ commands, c.Single) :
    Leads start (lived start commands).1 (lived start commands).2 := by
  induction commands with
  | nil => exact .here
  | cons command earlier ih =>
    exact .work (ih fun c member => single c (List.mem_cons_of_mem _ member)) command
      (single command List.mem_cons_self)

/-- A program that launches a task with 4 threads. -/
def rebuildingProgram : Bytes :=
  Assembly.bytes { instructions := [.context 0, .beginPass, .launch (Workspace.launchOf 4), .endPass] }

/-- The task is launched, and twice more, each time after a change of its grid. -/
def rescheduling : List MachineCommand :=
  let blocks (count : UInt32) : MachineCommand :=
    .setSchedule (GridSchedule.setGrid {} "t" { blocks := { x := count }, lanes := { x := 8 } })
  [.perform false none 0, blocks 3, .perform false none 0, blocks 2, .perform false none 0]

/-- Two rebuilds are counted four times, beside three compilations that go well. -/
theorem rescheduling_counts : ∃ (past : List Moment) (s : Session),
    (s.machine.cache.recompilations = 4 ∧ Moment.forcedBuilds past = 2 ∧ s.machine.cache.pending = 0 ∧
        (Moment.builds past).length = 3 ∧ past.countP Moment.recounts = 2) ∧
      (∀ m ∈ past, m.Builds) ∧ Lives past s := by
  have ran : (Op.success? (Machine.create rebuildingProgram { useDependencies := false })
      countingSite).any (fun made =>
      let past := (lived ⟨made.2.1, made.2.2, made.1⟩ rescheduling).1
      let s := (lived ⟨made.2.1, made.2.2, made.1⟩ rescheduling).2
      (s.machine.cache.recompilations = 4 ∧ Moment.forcedBuilds past = 2 ∧ s.machine.cache.pending = 0 ∧
          (Moment.builds past).length = 3 ∧ past.countP Moment.recounts = 2) ∧
        ∀ m ∈ past, (m.launch?.all fun l => (Op.success? (Machine.compile l) m.before).isSome) = true) =
          true := by
    decide +kernel
  obtain ⟨⟨m, site⟩, made, same⟩ := (Option.any_eq_true _ _).1 ran
  obtain ⟨counts, succeed⟩ := of_decide_eq_true same
  have yields : Op.Yields (Machine.create rebuildingProgram { useDependencies := false }) countingSite m site :=
    Op.yields_iff_success?.2 (Option.mem_def.1 made)
  have single : ∀ c ∈ rescheduling, c.Single := by
    intro c member
    simp only [rescheduling, List.mem_cons, List.not_mem_nil, or_false] at member
    rcases member with rfl | rfl | rfl | rfl | rfl <;> trivial
  exact ⟨_, _, counts, fun moment member => Moment.builds_of_success (succeed moment member), m, site, _,
    Machine.create_fresh yields, leads_lived _ single⟩

/-- Two forced rebuilds are counted twice. -/
theorem rescheduling_counted : ∃ (past : List Moment) (s : Session), Lives past s ∧
    s.machine.cache.recompilations = Moment.forcedBuilds past + s.machine.cache.pending + 2 ∧
      ¬ ∀ m ∈ past, m.recounts = false := by
  obtain ⟨past, s, ⟨_, _, _, _, again⟩, _, lives⟩ := rescheduling_counts
  obtain ⟨count, within, _⟩ := rebuilds_counted lives
  rw [again] at count
  refine ⟨past, s, lives, count, fun none => ?_⟩
  have bounded := within.2 none
  omega

/-- So the count is not always within the rebuilds, and not within the compilations either, even if all of
them go well. -/
theorem rebuilds_not_counted_once :
    (¬ ∀ (past : List Moment) (s : Session), Lives past s →
      s.machine.cache.recompilations ≤ Moment.forcedBuilds past + s.machine.cache.pending) ∧
    ¬ ∀ (past : List Moment) (s : Session), Lives past s → (∀ m ∈ past, m.Builds) →
      s.machine.cache.recompilations ≤ (Moment.builds past).length := by
  obtain ⟨past, s, ⟨count, forced, pending, builds, _⟩, succeed, lives⟩ := rescheduling_counts
  refine ⟨fun claim => ?_, fun claim => ?_⟩
  · have bounded := claim past s lives
    omega
  · have bounded := claim past s lives succeed
    omega

end Session
end Offload
