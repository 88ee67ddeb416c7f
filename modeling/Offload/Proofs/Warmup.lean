import Offload.Code.Assembly
import Offload.Proofs.Creation
import Offload.Proofs.Readiness

/-! Runs after a warmup. A warmup only compiles, so it leaves a session that is like the one before it.
The run that follows meets other binaries than a run without the warmup would, and builds anew at other
launches; but at each launch both end up with the same binary, so that in the end they differ in
binaries and in the records of compilations only. -/
namespace Offload

namespace Device

variable {d : Device} {code : Binary}

/-- The id of a binary that is good is not looked at. -/
theorem launch_anyId (good : code.valid = true) (current : code.epoch = d.epoch) (id : CodeId)
    (frame : List KernelArg) (atomics : Option DeviceBuffer) (grid : Grid) (offset : Nat)
    (wait : List EventId) :
    launch { code with id } frame atomics grid offset wait d =
      launch code frame atomics grid offset wait d := by
  have kernels : d.kernelOf { code with id } = d.kernelOf code := by
    simp only [kernelOf, good, current, not_true_eq_false, ne_eq, or_self, if_false]
  unfold launch
  rw [Op.get_bind, Op.get_bind, kernels]
  rfl

end Device

namespace Machine

variable {s t : Session} {program : Cursor} {l : Launch} {code : Binary}

private theorem enqueue_anyId (good : code.valid = true) (current : code.epoch = s.device.epoch) (id : CodeId)
    (b : BoundLaunch) : enqueue l { code with id } b s = enqueue l code b s := by
  have launched : Op.attempt (Session.onDevice
        (Device.launch { code with id } b.frame b.atomics b.grid l.offset.toNat b.wait)) s =
      (Op.attempt (Session.onDevice
        (Device.launch code b.frame b.atomics b.grid l.offset.toNat b.wait)) s :
        Outcome MachineError Session (Except MachineError EventId)) := by
    simp only [Op.attempt, Session.onDevice, Op.onPart, Op.mapError,
      Device.launch_anyId good current id]
  unfold enqueue
  rw [Op.bind_run, Op.bind_run, launched]

private theorem launchWith_anyId (good : code.valid = true) (current : code.epoch = s.device.epoch)
    (id : CodeId) : launchWith l { code with id } s = launchWith l code s := by
  unfold launchWith
  rw [Op.bind_run, Op.bind_run]
  have kept : Session.Keeps s _ := moves_bindLaunch l s
  rcases ran : bindLaunch l s with ⟨e | b, t, log⟩
  · rfl
  · rw [ran] at kept
    have current' : code.epoch = t.device.epoch := current.trans kept.frames.device.epoch.symm
    simp only [enqueue_anyId good current' id]

/-- A launch that is served runs the binary it calls for. -/
theorem dispatch_served {task : Task} {id : CodeId} (known : s.context.task l.task.toNat = .ok task)
    (held : s.machine.cache.code l.task.toNat =
      some (s.device.plainBinary id task l.batchThreads.toNat)) :
    dispatch l s = launchWith l (s.device.plainBinary 0 task l.batchThreads.toNat) s := by
  have found : installedCode l s =
      ⟨.ok (s.device.plainBinary id task l.batchThreads.toNat), s, []⟩ := by
    unfold installedCode
    rw [Op.get_bind, known, held]
    rfl
  have same : launchWith l { s.device.plainBinary 0 task l.batchThreads.toNat with id } s =
      launchWith l (s.device.plainBinary 0 task l.batchThreads.toNat) s :=
    launchWith_anyId rfl rfl id
  unfold dispatch
  rw [Op.bind_ok found]
  exact same

/-! ### Two sessions in a pass -/

/-- Two sessions in a pass of the program that are alike. -/
structure Twins (program : Cursor) (s t : Session) : Prop where
  alike : Session.Alike s t
  left : s.Ready program
  right : t.Ready program

private theorem agree_twins {α : Type} {op : MachineOp α} (agree : Op.Agrees op Session.Alike)
    (keeps : Op.Moves op Session.Keeps) : Op.Agrees op (Twins program) := by
  intro s t twins
  obtain ⟨result, alike⟩ := agree s t twins.alike
  exact ⟨result, alike, twins.left.keeps (keeps s), twins.right.keeps (keeps t)⟩

private theorem fitCode_twins (uniform : program.Uniform) (launched : program.Launches l)
    (twins : Twins program s t) :
    (fitCode l s).result = (fitCode l t).result ∧
      Twins program (fitCode l s).state (fitCode l t).state ∧
      ((fitCode l s).result = .ok () →
        Serves (fitCode l s).state l ∧ Serves (fitCode l t).state l) := by
  obtain ⟨verdictLeft, readyLeft, servesLeft⟩ := fitCode_ready uniform launched twins.left
  obtain ⟨verdictRight, readyRight, servesRight⟩ := fitCode_ready uniform launched twins.right
  have verdicts : verdict s.context s.device l = verdict t.context t.device l :=
    Session.alike_view (fun s => verdict s.context s.device l) (fun _ => rfl) twins.alike
  have results : (fitCode l s).result = (fitCode l t).result := by
    rw [verdictLeft, verdictRight, verdicts]
  have alike : Session.Alike (fitCode l s).state (fitCode l t).state :=
    Op.Transition.trans (alike_fitCode l s).symm
      (Op.Transition.trans twins.alike (alike_fitCode l t))
  refine ⟨results, ⟨alike, readyLeft, readyRight⟩, ?_⟩
  intro done
  exact ⟨servesLeft done, servesRight (results ▸ done)⟩

private theorem dispatch_twins (twins : Twins program s t) (left : Serves s l) (right : Serves t l) :
    (dispatch l s).result = (dispatch l t).result ∧
      Twins program (dispatch l s).state (dispatch l t).state := by
  obtain ⟨task, id, known, held⟩ := left
  obtain ⟨task', id', known', held'⟩ := right
  have tasks : s.context = t.context :=
    Session.alike_view (fun s => s.context) (fun _ => rfl) twins.alike
  rw [← tasks, known] at known'
  cases known'
  have binaries : s.device.plainBinary 0 task l.batchThreads.toNat =
      t.device.plainBinary 0 task l.batchThreads.toNat :=
    Session.alike_view (fun s => s.device.plainBinary 0 task l.batchThreads.toNat) (fun _ => rfl)
      twins.alike
  rw [dispatch_served known held, dispatch_served (tasks ▸ known) held', binaries]
  exact agree_twins (agree_launchWith l _) (moves_launchWith l _) s t twins

private theorem launch_twins (uniform : program.Uniform) (launched : program.Launches l)
    (last : Option EventId) (offset : Nat) :
    Op.Agrees (runInstruction last offset (.launch l)) (Twins program) := by
  intro s t twins
  obtain ⟨results, after, serves⟩ := fitCode_twins uniform launched twins
  have left := compile_current (l := l) twins.left.epoch
  have right := compile_current (l := l) twins.right.epoch
  refine Op.agreeing_bind (by rw [left, right, results]) (by rw [left, right]; exact after) ?_
  intro _ done
  rw [left] at done
  rw [left, right]
  obtain ⟨servesLeft, servesRight⟩ := serves done
  obtain ⟨dispatched, states⟩ := dispatch_twins after servesLeft servesRight
  exact Op.agreeing_bind dispatched states fun event _ => ⟨rfl, states⟩

private theorem stepEntry_twins (uniform : program.Uniform) (last : Option EventId) (entry : Entry)
    (launched : ∀ l, entry.instruction = .launch l → program.Launches l) :
    Op.Agrees (stepEntry false last entry) (Twins program) := by
  obtain ⟨offset, i⟩ := entry
  show Op.Agrees (runInstruction last offset i) (Twins program)
  by_cases launch : ∃ l, i = .launch l
  · obtain ⟨l, rfl⟩ := launch
    exact launch_twins uniform (launched l rfl) last offset
  · have ordinary : ∀ l, i ≠ .launch l := fun l same => launch ⟨l, same⟩
    refine agree_twins (agree_runInstruction last offset i ordinary) ?_
    exact survives_runInstruction (fun _ _ kept => kept) last offset i
      fun l same => absurd same (ordinary l)

private theorem runEntries_twins (uniform : program.Uniform) (stop : ScanStop) (last : Option EventId)
    (entries : List Entry)
    (launched : ∀ l, (∃ offset, ⟨offset, .launch l⟩ ∈ entries) → program.Launches l) :
    Op.Agrees (runEntries false stop last entries) (Twins program) := by
  have ended : Op.Agrees (endPass false) (Twins program) :=
    agree_twins agree_endRun moves_endRun
  induction entries generalizing last with
  | nil =>
    unfold runEntries
    split
    · exact Op.agree_fail _
    · exact ended
  | cons entry rest ih =>
    obtain ⟨offset, i⟩ := entry
    refine Op.agree_bind (agree_twins (agree_traceEntry _ _) (moves_traceEntry _ _)) fun _ => ?_
    refine Op.agree_ite ended ?_
    refine Op.agree_bind (stepEntry_twins uniform last _ ?_) fun last => ih last ?_
    · rintro l rfl
      exact launched l ⟨offset, by simp⟩
    · rintro l ⟨offset', member⟩
      exact launched l ⟨offset', by simp [member]⟩

private theorem runProgram_twins (uniform : program.Uniform) :
    Op.Agrees (runProgram false) (Twins program) := by
  intro s t twins
  have left := twins.left.same
  have right := twins.right.same
  show (runEntries false s.machine.program.scan.stop none s.machine.program.scan.entries s).result =
      (runEntries false t.machine.program.scan.stop none t.machine.program.scan.entries t).result ∧
    Twins program
      (runEntries false s.machine.program.scan.stop none s.machine.program.scan.entries s).state
      (runEntries false t.machine.program.scan.stop none t.machine.program.scan.entries t).state
  rw [left, right]
  exact runEntries_twins uniform _ none _ (fun l launched => launched) s t twins

/-! ### The warmup -/

/-- A session in a pass of the program stays like itself, and ready. -/
def Prepares (program : Cursor) (before after : Session) : Prop :=
  before.Ready program → Session.Alike before after ∧ after.Ready program

instance : Op.Transition (Prepares program) where
  refl _ := fun ready => ⟨Op.Transition.refl _, ready⟩
  trans first second := fun ready =>
    have middle := first ready
    have last := second middle.2
    ⟨Op.Transition.trans middle.1 last.1, last.2⟩

private theorem prepares_of_alike {α : Type} {op : MachineOp α} (alike : Op.Moves op Session.Alike)
    (keeps : Op.Moves op Session.Keeps) : Op.Moves op (Prepares program) :=
  fun s ready => ⟨alike s, ready.keeps (keeps s)⟩

private theorem prepares_compile (uniform : program.Uniform) (launched : program.Launches l) :
    Op.Moves (compile l) (Prepares program) := by
  intro s ready
  rw [compile_current ready.epoch]
  exact ⟨alike_fitCode l s, (fitCode_ready uniform launched ready).2.1⟩

private theorem prepares_runProgram (uniform : program.Uniform) (ready : s.Ready program) :
    Prepares program s (runProgram true s).state := by
  refine moves_warmEntries none s.machine.program.scan.entries ?_ s
  intro l launched
  rw [ready.same] at launched
  exact prepares_compile uniform launched

private theorem prepares_concludePass (warmup : Bool) (result : Except MachineError (Option EventId)) :
    Op.Moves (concludePass warmup result) (Prepares program) := by
  refine prepares_of_alike ?_ (moves_concludePass _ _)
  cases result with
  | error e => exact Op.moves_emit _
  | ok marker =>
    refine Op.moves_bind (Op.moves_modify fun s => ⟨rfl, Op.Transition.refl _⟩) fun _ => ?_
    exact Op.moves_bind Op.moves_get fun s => Op.moves_emit _

private theorem prepares_setFinished (finished : Bool) :
    Op.Moves (Session.modifyMachine fun m => { m with finishedWarmup := finished })
      (Prepares program) :=
  prepares_of_alike (Op.moves_modify fun _ => ⟨rfl, Op.Transition.refl _⟩) (moves_setFinished _)

/-! ### The first pass -/

/-- A session whose machine has not done anything yet. -/
structure Unused (program : Cursor) (s : Session) : Prop where
  same : s.machine.program = program
  unfinished : s.machine.finishedWarmup = false
  unbound : s.machine.bindings.boundBytes = 0
  plain : ∀ task ∈ s.context.tasks, task.writesLoopIndex = false
  sized : s.machine.cache.slots.length = s.context.tasks.length
  slots : ∀ slot ∈ s.machine.cache.slots, slot = {}

/-- The first pass notices a reset before it, and then stands ready, with nothing forgotten that was in
use. -/
theorem unused_startPass (unused : Unused program s) :
    ∃ t, Op.Yields startPass s () t ∧ t.Ready program ∧ t.context = s.context ∧
      t.machine.config = s.machine.config ∧ t.machine.lists.resetAll = t.machine.lists := by
  have emptied (m : Machine) : m.lists.resetAll.resetAll = m.lists.resetAll := by
    simp [EventLists.resetAll]
  by_cases current : s.device.epoch = s.machine.epoch
  · refine ⟨{ s with machine.lists := s.machine.lists.resetAll }, ?_, ?_, rfl, rfl, emptied _⟩
    · exact Op.yields_bind.2 ⟨(), _, ⟨rfl, rfl⟩, yields_syncEpoch.2 (.inl ⟨current, rfl⟩)⟩
    · refine ⟨unused.same, current, unused.plain, unused.sized, ?_⟩
      intro index slot task found _
      rw [unused.slots slot (List.mem_of_getElem? found)]
      exact CacheSlot.ready_empty s.device program index task
  · refine ⟨afterNotice { s with machine.lists := s.machine.lists.resetAll }, ?_, ?_, ?_, rfl,
      emptied _⟩
    · exact Op.yields_bind.2 ⟨(), _, ⟨rfl, rfl⟩,
        yields_syncEpoch.2 (.inr ⟨current, unused.unfinished, rfl⟩)⟩
    · refine ⟨unused.same, rfl, unused.plain, ?_, ?_⟩
      · show (s.machine.cache.slots.map _).length = _
        rw [List.length_map]
        exact unused.sized
      · intro index slot task found _
        obtain ⟨old, earlier, rfl⟩ := Option.map_eq_some_iff.1 (List.getElem?_map .. ▸ found)
        rw [unused.slots old (List.mem_of_getElem? earlier)]
        exact CacheSlot.ready_empty s.device program index task
    · show { s.context with memory := s.context.memory.sub s.machine.bindings.boundBytes } = s.context
      rw [unused.unbound]
      rfl

/-- A later pass starts without a notice. -/
theorem ready_startPass (ready : s.Ready program) :
    Op.Yields startPass s () { s with machine.lists := s.machine.lists.resetAll } :=
  Op.yields_bind.2 ⟨(), _, ⟨rfl, rfl⟩, yields_syncEpoch.2 (.inl ⟨ready.epoch, rfl⟩)⟩

private theorem pass_started (warmup : Bool) (started : Op.Yields startPass s () t) :
    (pass warmup s).result = (runProgram warmup t).result ∧
      (pass warmup s).state = (runProgram warmup t).state := by
  obtain ⟨result, state⟩ := started
  rcases ran : startPass s with ⟨r, after, log⟩
  rw [ran] at result state
  cases result
  cases state
  unfold pass
  rw [Op.bind_ok ran]
  exact ⟨rfl, rfl⟩

/-- A warmup ends where its pass ends. -/
theorem warmup_state (s : Session) :
    ∃ finished, (warmup s).state = { (execute .warmup { s with machine.finishedWarmup := false }).state with
      machine.finishedWarmup := finished } := by
  have begun : (Session.modifyMachine fun m => { m with finishedWarmup := false }) s =
      (⟨.ok (), { s with machine.finishedWarmup := false }, []⟩ : Outcome MachineError Session Unit) :=
    rfl
  unfold warmup
  rw [Op.bind_ok begun]
  rcases ran : execute .warmup { s with machine.finishedWarmup := false } with ⟨e | marker, t, log⟩
  · rw [Op.bind_error ran]
    exact ⟨t.machine.finishedWarmup, rfl⟩
  · rw [Op.bind_ok ran]
    exact ⟨true, rfl⟩

/-- The warmup of an unused machine leaves what the start of its first pass leaves, but for binaries. -/
theorem warmup_prepares (uniform : program.Uniform) (unused : Unused program s)
    (within : s.context.memory.exceeded = false) (started : Op.Yields startPass s () t)
    (ready : t.Ready program) :
    Session.Alike t (warmup s).state ∧ (warmup s).state.Ready program := by
  have same : ({ s with machine.finishedWarmup := false } : Session) = s := by
    rw [← unused.unfinished]
  obtain ⟨finished, state⟩ := warmup_state s
  rw [state, same]
  rw [(execute_within .warmup within).2]
  obtain ⟨-, ran⟩ := pass_started (decide (Mode.warmup = .warmup) || s.machine.config.virtualDevice)
    started
  rw [ran]
  have compiled := prepares_runProgram uniform ready
  have concluded (result : Except MachineError (Option EventId)) :
      Op.Moves (concludePass true result) (Prepares program) := prepares_concludePass true result
  exact Op.Transition.trans (R := Prepares program) compiled
    (Op.Transition.trans (concluded _ _) (prepares_setFinished finished _)) ready

/-- Without a pass there is no difference either. -/
theorem run_after_exceeded (exceeded : s.context.memory.exceeded = true) :
    (execute .run (warmup s).state).result = (execute .run s).result ∧
      Session.Alike (execute .run s).state (execute .run (warmup s).state).state := by
  obtain ⟨finished, state⟩ := warmup_state s
  rw [(execute_exceeded .warmup (s := { s with machine.finishedWarmup := false }) exceeded).2] at state
  have exceeded' : (warmup s).state.context.memory.exceeded = true := by
    rw [state]
    exact exceeded
  obtain ⟨result, same⟩ := execute_exceeded .run exceeded
  obtain ⟨result', same'⟩ := execute_exceeded .run exceeded'
  rw [result, same, result', same', state]
  exact ⟨rfl, rfl, Op.Transition.refl _⟩

private theorem run_after_warmup (uniform : program.Uniform) (unused : Unused program s)
    (real : s.machine.config.virtualDevice = false) :
    (execute .run (warmup s).state).result = (execute .run s).result ∧
      Session.Alike (execute .run s).state (execute .run (warmup s).state).state := by
  rcases within : s.context.memory.exceeded with _ | _
  · obtain ⟨t, started, ready, context, config, emptied⟩ := unused_startPass unused
    obtain ⟨alike, ready'⟩ := warmup_prepares uniform unused within started ready
    generalize (warmup s).state = w at alike ready'
    have contexts : t.context = w.context := Session.alike_view (fun s => s.context) (fun _ => rfl) alike
    have configs : t.machine.config = w.machine.config :=
      Session.alike_view (fun s => s.machine.config) (fun _ => rfl) alike
    have within' : w.context.memory.exceeded = false := by
      rw [← contexts, context]
      exact within
    have real' : w.machine.config.virtualDevice = false := by
      rw [← configs, config]
      exact real
    have twins : Twins program t { w with machine.lists := w.machine.lists.resetAll } := by
      refine ⟨?_, ready, ready'.keeps (moves_resetAll w)⟩
      have both := Session.alike_change (fun s => { s with machine.lists := s.machine.lists.resetAll })
        (fun _ => rfl) (fun _ => rfl) alike
      rwa [emptied] at both
    obtain ⟨results, ran⟩ := runProgram_twins uniform _ _ twins
    have cold := execute_within .run within
    have warm := execute_within .run within'
    rw [real] at cold
    rw [real'] at warm
    obtain ⟨coldRan, coldLeft⟩ := pass_started false started
    obtain ⟨warmRan, warmLeft⟩ := pass_started false (ready_startPass ready')
    constructor
    · calc (execute .run w).result = (pass false w).result := warm.1
        _ = (runProgram false { w with machine.lists := w.machine.lists.resetAll }).result := warmRan
        _ = (runProgram false t).result := results.symm
        _ = (pass false s).result := coldRan.symm
        _ = (execute .run s).result := cold.1.symm
    · have coldState : (execute .run s).state =
          (concludePass false (pass false s).result (pass false s).state).state := cold.2
      have warmState : (execute .run w).state =
          (concludePass false (pass false w).result (pass false w).state).state := warm.2
      rw [coldState, warmState, coldRan, coldLeft, warmRan, warmLeft, ← results]
      exact (agree_concludePass false _ _ _ ran.alike).2
  · exact run_after_exceeded within

private theorem unused_of_fresh {m : Machine} {site : Site} {config : Config} (fresh : m.Fresh site config)
    (new : s.machine = { m with schedule := s.machine.schedule })
    (tasks : s.context.tasks = site.1.tasks)
    (plain : ∀ task ∈ s.context.tasks, task.writesLoopIndex = false) : Unused m.program s := by
  have cache : s.machine.cache = .create site.1.tasks.length := by
    rw [new]
    exact fresh.cache
  refine ⟨by rw [new], ?_, ?_, plain, ?_, ?_⟩
  · rw [new]
    exact fresh.finishedWarmup
  · rw [new]
    show m.bindings.boundBytes = 0
    rw [fresh.bindings]
    exact Bindings.boundBytes_ofContext site.1
  · rw [cache, tasks]
    exact List.length_replicate
  · intro slot member
    rw [cache] at member
    exact (List.mem_replicate.1 member).2

/-- A run of a new machine after a warmup, whatever the warmup came to, has the result of a run without
it and leaves the same session, but for binaries and the records of compilations. The device may be any,
and so may the schedule. -/
theorem warmup_invisible {bytes : Bytes} {config : Config} {site site' : Site} {m : Machine}
    (made : Op.Yields (create bytes config) site m site') (real : config.virtualDevice = false)
    (new : s.machine = { m with schedule := s.machine.schedule })
    (tasks : s.context.tasks = site'.1.tasks)
    (plain : ∀ task ∈ s.context.tasks, task.writesLoopIndex = false) (uniform : m.program.Uniform) :
    (execute .run (warmup s).state).result = (execute .run s).result ∧
      Session.Alike (execute .run s).state (execute .run (warmup s).state).state := by
  have fresh := create_fresh made
  refine run_after_warmup uniform (unused_of_fresh fresh new tasks plain) ?_
  rw [new]
  show m.config.virtualDevice = false
  rw [fresh.config]
  exact real

/-- A program that launches a task with 5 threads and then with 3. -/
def lastBatch : Bytes :=
  Assembly.bytes
    { instructions :=
        [.context 0, .beginPass,
          .launch { wrapper := 0, task := 0, list := none, offset := 0, batchThreads := 5, args := [] },
          .launch { wrapper := 0, task := 0, list := none, offset := 5, batchThreads := 3, args := [] },
          .endPass] }

def lastBatchSite : Site :=
  ({ name := "last batch", tasks := [{ id := "t", kernel := "noop" }] },
    Device.registerKernel {} "noop" fun _ => .done ())

/-- Its warmup leaves the binary for 3 threads, so that the run builds the one for 5 anew. -/
theorem lastBatch_invisible : ∃ m site',
    Op.Yields (create lastBatch { useDependencies := false }) lastBatchSite m site' ∧
      (execute .run ⟨site'.1, site'.2, m⟩).result.isOk = true ∧
      (execute .run (warmup ⟨site'.1, site'.2, m⟩).state).result =
        (execute .run ⟨site'.1, site'.2, m⟩).result ∧
      Session.Alike (execute .run ⟨site'.1, site'.2, m⟩).state
        (execute .run (warmup ⟨site'.1, site'.2, m⟩).state).state := by
  have ran : (Op.success? (create lastBatch { useDependencies := false }) lastBatchSite).map
      (fun made =>
        (made.1.program.scan.entries.all fun entry =>
            match entry.instruction with
            | .launch l => l.batchThreads ≠ 0
            | _ => true,
          made.2.1.tasks, (execute .run ⟨made.2.1, made.2.2, made.1⟩).result.isOk)) =
      some (true, [{ id := "t", kernel := "noop" }], true) := by decide +kernel
  obtain ⟨⟨m, site'⟩, made, same⟩ := Option.map_eq_some_iff.1 ran
  simp only [Prod.mk.injEq, List.all_eq_true] at same
  obtain ⟨batched, tasks, finished⟩ := same
  have nonzero (l : Launch) (launched : m.program.Launches l) : l.batchThreads ≠ 0 := by
    obtain ⟨offset, member⟩ := launched
    simpa using batched _ member
  have built := Op.yields_iff_success?.2 made
  refine ⟨m, site', built, finished, warmup_invisible built rfl rfl rfl ?_ ?_⟩
  · intro task member
    change task ∈ site'.1.tasks at member
    rw [tasks] at member
    rw [List.mem_singleton.1 member]
  · intro l l' launched launched' _
    exact ⟨fun zero => absurd zero (nonzero l launched), fun zero => absurd zero (nonzero l' launched')⟩

end Machine
end Offload
