import Offload.Proofs.LaunchedBatch

/-! Passes that only compile: warmups, and every pass of a machine whose device is virtual. However far
such a pass gets, all that it leaves behind are binaries and the records of them. -/
namespace Offload

/-- A device with the compilations of another. -/
def Device.withCompilations (d d' : Device) : Device :=
  { d with
    compileLog := d'.compileLog
    nextCode := d'.nextCode
    counters.compilations := d'.counters.compilations }

/-- A machine with the binaries of another, and with its counts, event lists and measurements. -/
def Machine.withBinaries (m m' : Machine) : Machine :=
  { m with
    cache := m'.cache
    stats := m'.stats
    finishedWarmup := m'.finishedWarmup
    lists := m'.lists
    profiler := m'.profiler }

namespace Session

/-- From one session to the next there are compilations and nothing else. Host objects and the budget
are as they were, and so are memory, events and markers of the device, its other counters, and the
bindings and bound arguments of the machine. Each compilation takes one id and is counted once. -/
structure Compiled (s t : Session) : Prop where
  context : t.context = s.context
  device : t.device = s.device.withCompilations t.device
  machine : t.machine = s.machine.withBinaries t.machine
  profiler : Profiler.Alike s.machine.profiler t.machine.profiler
  records : ∃ records, t.device.compileLog = s.device.compileLog ++ records ∧
    t.device.nextCode = s.device.nextCode + records.length ∧
    t.device.counters.compilations = s.device.counters.compilations + records.length ∧
    t.machine.stats.compilations = s.machine.stats.compilations + records.length

instance : Op.Transition Compiled where
  refl s := ⟨rfl, rfl, rfl, Op.Transition.refl _, [], by simp⟩
  trans {s t u} first second := by
    obtain ⟨built, log, code, counter, stats⟩ := first.records
    obtain ⟨built', log', code', counter', stats'⟩ := second.records
    have both : (built ++ built').length = built.length + built'.length := List.length_append
    refine ⟨second.context.trans first.context, ?_, ?_,
      Op.Transition.trans first.profiler second.profiler, built ++ built', ?_⟩
    · exact second.device.trans (congrArg (·.withCompilations u.device) first.device)
    · exact second.machine.trans (congrArg (·.withBinaries u.machine) first.machine)
    · exact ⟨by rw [log', log, List.append_assoc], by rw [code', code, both, Nat.add_assoc],
        by omega, by omega⟩

variable {s t : Session}

/-- A change of what belongs to the binaries of a machine, with no compilation behind it. -/
theorem compiled_machine {m : Machine} (same : m = s.machine.withBinaries m)
    (profiler : m.profiler = s.machine.profiler)
    (stats : m.stats.compilations = s.machine.stats.compilations) :
    Compiled s { s with machine := m } := by
  refine ⟨rfl, rfl, same, ?_, [], by simp [stats]⟩
  rw [profiler]
  exact Op.Transition.refl _

private theorem Compiled.epochs (compiled : Compiled s t) (current : s.device.epoch = s.machine.epoch) :
    t.device.epoch = t.machine.epoch := by
  rw [compiled.device, compiled.machine]
  exact current

/-- From a machine that is up to date with its device there are compilations only. -/
def CompilesOnly (s t : Session) : Prop :=
  s.device.epoch = s.machine.epoch → Compiled s t

instance : Op.Transition CompilesOnly where
  refl s := fun _ => Op.Transition.refl s
  trans first second := fun current =>
    Op.Transition.trans (first current) (second ((first current).epochs current))

end Session

namespace Machine

open Session (Compiled CompilesOnly compiled_machine)

variable {s t : Session} {warmup : Bool} {stop : ScanStop}

private theorem compiled_buildCode (index : Nat) (task : Task) : Op.Moves (buildCode index task) Compiled := by
  intro s
  rcases buildCode_cases s index task with ⟨e, _, _, same⟩ | ⟨_, _, built⟩
  · rw [same]
    exact Op.Transition.refl s
  · rw [built]
    exact ⟨rfl, rfl, rfl, Profiler.alike_addCompile _ _, [_], rfl, rfl, rfl, rfl⟩

theorem compiled_fitCode (l : Launch) : Op.Moves (fitCode l) Compiled := by
  intro s
  have fitted (task : Task) : Compiled s (prepared s l task) := compiled_machine rfl rfl rfl
  rcases fitCode_cases l s with ⟨e, _, _, same⟩ | ⟨task, _, ⟨_, _, same⟩ | ⟨_, _, same⟩⟩
  · rw [same]
    exact Op.Transition.refl s
  · rw [same]
    exact fitted task
  · rw [same]
    exact Op.Transition.trans (fitted task) (compiled_buildCode _ _ _)

private theorem compilesOnly_compile (l : Launch) : Op.Moves (compile l) CompilesOnly := by
  intro s current
  rw [compile_current current]
  exact compiled_fitCode l s

/-- A change of the machine as such, whatever the epochs. -/
theorem compilesOnly_modify {change : Machine → Machine}
    (same : ∀ m, change m = m.withBinaries (change m))
    (profiler : ∀ m, (change m).profiler = m.profiler)
    (stats : ∀ m, (change m).stats.compilations = m.stats.compilations) :
    Op.Moves (Session.modifyMachine change) CompilesOnly :=
  Op.moves_modify fun s _ => compiled_machine (same s.machine) (profiler _) (stats _)

private theorem compilesOnly_startPass : Op.Moves startPass CompilesOnly := by
  refine Op.moves_bind ?_ fun _ s current => ?_
  · exact compilesOnly_modify (fun _ => rfl) (fun _ => rfl) fun _ => rfl
  · rw [(syncEpoch_current current).2]
    exact Op.Transition.refl s

private theorem compilesOnly_concludePass (warmup : Bool) (result : Except MachineError (Option EventId)) :
    Op.Moves (concludePass warmup result) CompilesOnly := by
  cases result with
  | error e => exact Op.moves_emit _
  | ok marker =>
    refine Op.moves_bind ?_ fun _ => Op.moves_bind Op.moves_get fun s => Op.moves_emit _
    refine compilesOnly_modify (fun _ => rfl) (fun _ => rfl) fun _ => ?_
    cases warmup <;> rfl

private theorem compilesOnly_setFinished (finished : Bool) :
    Op.Moves (Session.modifyMachine fun m => { m with finishedWarmup := finished }) CompilesOnly :=
  compilesOnly_modify (fun _ => rfl) (fun _ => rfl) fun _ => rfl

private theorem compilesOnly_pass : Op.Moves (pass true) CompilesOnly := by
  refine Op.moves_bind compilesOnly_startPass fun _ s => ?_
  exact moves_warmEntries none s.machine.program.scan.entries (fun l _ => compilesOnly_compile l) s

/-- A warmup has no event at its end. -/
theorem warmEntries_event {last marker : Option EventId} {entries : List Entry}
    (ran : Op.Yields (runEntries true stop last entries) s marker t) : marker = none := by
  induction entries generalizing last s with
  | nil =>
    unfold runEntries at ran
    split at ran
    · exact absurd ran Op.yields_fail
    · exact (Op.yields_pure.1 ran).1.symm
  | cons entry rest ih =>
    obtain ⟨_, _, _, ran⟩ := Op.yields_bind.1 ran
    split at ran
    · exact (Op.yields_pure.1 ran).1.symm
    · obtain ⟨_, _, _, ran⟩ := Op.yields_bind.1 ran
      exact ih ran

private theorem pass_event {marker : Option EventId} (ran : Op.Yields (pass true) s marker t) :
    marker = none := by
  obtain ⟨_, _, _, ran⟩ := Op.yields_bind.1 ran
  exact warmEntries_event ran

/-- A pass is a warmup if it is asked to be one, or if the device of the machine is virtual. -/
def OnlyWarms (mode : Mode) (s : Session) : Prop :=
  mode = .warmup ∨ s.machine.config.virtualDevice = true

private theorem compiled_execute {mode : Mode} (warms : OnlyWarms mode s)
    (current : s.device.epoch = s.machine.epoch) : Compiled s (execute mode s).state := by
  rcases within : s.context.memory.exceeded with _ | _
  · have warm : (decide (mode = .warmup) || s.machine.config.virtualDevice) = true := by
      simpa [OnlyWarms] using warms
    rw [(execute_within mode within).2, warm]
    exact Op.Transition.trans (R := CompilesOnly) (compilesOnly_pass s)
      (compilesOnly_concludePass true _ _) current
  · rw [(execute_exceeded mode within).2]
    exact Op.Transition.refl s

private theorem execute_event {mode : Mode} {marker : Option EventId} (warms : OnlyWarms mode s)
    (done : (execute mode s).result = .ok marker) : marker = none := by
  rcases within : s.context.memory.exceeded with _ | _
  · have warm : (decide (mode = .warmup) || s.machine.config.virtualDevice) = true := by
      simpa [OnlyWarms] using warms
    rw [(execute_within mode within).1, warm] at done
    exact pass_event ⟨done, rfl⟩
  · rw [(execute_exceeded mode within).1] at done
    cases done

private theorem compilesOnly_execute : Op.Moves (execute .warmup) CompilesOnly :=
  fun _ current => compiled_execute (.inl rfl) current

private theorem compilesOnly_warmup : Op.Moves Machine.warmup CompilesOnly := by
  refine Op.moves_bind (compilesOnly_setFinished false) fun _ => ?_
  exact Op.moves_bind compilesOnly_execute fun _ => compilesOnly_setFinished true

/-- Whether it ends well or fails at any of its instructions, a pass that only warms up leaves nothing
but compilations behind, and a warmup of the machine does so too. There is no event at the end. -/
theorem warming_compiles_only (current : s.device.epoch = s.machine.epoch) :
    (∀ mode, OnlyWarms mode s →
      Compiled s (execute mode s).state ∧
        ∀ marker, (execute mode s).result = .ok marker → marker = none) ∧
      Compiled s (Machine.warmup s).state :=
  ⟨fun _ warms => ⟨compiled_execute warms current, fun _ done => execute_event warms done⟩,
    compilesOnly_warmup s current⟩

end Machine

namespace Workspace

/-- A machine that has copied an object to its device and launched a task with 5 threads and then with
3. -/
def resident : Workspace :=
  let program := Assembly.bytes
    { instructions :=
        [.context 0, .beginPass, .alloc 0 [0],
          .transfer .inOnce { object := 0, list := none, offset := 0, batchSize := 0 },
          .launch (launchOf 5), .launch (launchOf 3), .endPass] }
  let start : Workspace :=
    { context :=
        { name := "resident", objects := [{ object := .array (.zeroed .i32 4) }]
          tasks := [{ id := "t", kernel := "noop" }] }
      devices := [Device.registerKernel {} "noop" fun _ => .done ()] }
  let built := (start.build 0 program { useDependencies := false }).state
  (built.onMachine 0 (MachineCommand.execute .run).run).state

/-- A warmup compiles for 5 threads and for 3 anew, and finds its buffer as it was. -/
theorem resident_compiles_only : ∃ s, resident.session? 0 = some (0, s) ∧
    s.device.epoch = s.machine.epoch ∧ Machine.usage s = 16 ∧
    s.device.compileLog.length = 2 ∧ (Machine.warmup s).state.device.compileLog.length = 4 ∧
    Session.Compiled s (Machine.warmup s).state := by
  have ran : (resident.session? 0).any (fun seated =>
      seated.1 = 0 ∧ seated.2.device.epoch = seated.2.machine.epoch ∧ Machine.usage seated.2 = 16 ∧
        seated.2.device.compileLog.length = 2 ∧
        (Machine.warmup seated.2).state.device.compileLog.length = 4) = true := by
    decide +kernel
  obtain ⟨⟨index, s⟩, present, same⟩ := (Option.any_eq_true _ _).1 ran
  obtain ⟨rfl, current, usage, before, after⟩ := of_decide_eq_true same
  exact ⟨s, present, current, usage, before, after, (Machine.warming_compiles_only current).2⟩

end Workspace
end Offload
