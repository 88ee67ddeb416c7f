import Offload.Proofs.LostReleases
import Offload.Proofs.MachineSettings

/-! The settings of plans. A plan, its machine, the profile and the budget each have a copy of some settings, and
a machine comes late and goes when the plan moves. What the options add up to is in force everywhere all the
same: for the plan, and for its machine as soon as there is one. -/
namespace Offload

namespace Planner

variable {p : Planner} {slot : Nat} {plan : Plan} {m : Machine}

/-- The machine is on the registered device of that index: it has a seat there in a history of machines, and it
is described as that device. -/
structure Seats (p : Planner) (index : Nat) (m : Machine) : Prop where
  seated : ∃ (w : Workspace) (seat : Nat), w.Requested (fun _ => True) ∧ w.context = p.context ∧
    w.devices = p.registry.devices ∧ w.seats[seat]? = some (some ⟨index, m⟩)
  described : ∃ device, p.registry.devices[index]? = some device ∧ m.info = device.info

/-- Whatever happens, a machine is on the device that its plan names. -/
theorem seats_of_reachable (reachable : p.Reachable fun _ => True) (there : p.plan? slot = some plan)
    (made : plan.machine = some m) : p.Seats plan.device m := by
  obtain ⟨w, seats, requested, housed⟩ := housed_of_reachable reachable trivial
  obtain ⟨seat, _, seated⟩ := housed.machine slot plan m there made
  have registered := Workspace.registered_of_reachable requested.reachable _ (List.mem_of_getElem? seated)
  have found : w.devices[plan.device]? = some w.devices[plan.device] := List.getElem?_eq_getElem registered
  have placed := Workspace.placed_of_reachable requested.reachable
    (Workspace.session?_eq_some.2 ⟨m, _, seated, found, rfl⟩)
  exact ⟨⟨w, seat, requested, housed.context, housed.devices, seated⟩, _, housed.devices ▸ found, placed⟩

end Planner

/-! ### What options say -/

namespace PlanOption

variable {α : Type}

/-- The option as a plan notes it. -/
def noted : PlanOption → PlanOption
  | memoryLimit limit => memoryLimit (String.ofList (Text.trim limit.toList))
  | option => option

/-- What an option makes of the switches. -/
def configure (config : Config) : PlanOption → Config
  | memoryLimit limit => { config with memoryLimit := Text.parseSize? limit }
  | noMemoryLimit => { config with memoryLimit := none }
  | profiler => { config with profiler := true }
  | noProfiler => { config with profiler := false }
  | dependencies enabled => { config with useDependencies := enabled }
  | flush enabled => { config with flushOnEnd := enabled }
  | traceCode => { config with traceCode := true }
  | warmup | device _ | schedule _ => config

/-- The limit that an option asks for, or that there is none. -/
def limit? : PlanOption → Option (Option Nat)
  | memoryLimit limit => some (Text.parseSize? limit)
  | noMemoryLimit => some none
  | _ => none

/-- Whether an option switches profiling on or off. -/
def profiling? : PlanOption → Option Bool
  | profiler => some true
  | noProfiler => some false
  | _ => none

/-- The profiler that an option puts in place of the one before. -/
def profiler? : PlanOption → Option Profiler
  | profiler => some (.create true)
  | noProfiler => some .off
  | _ => none

private theorem isEnabled_profiler? (option : PlanOption) (before : Profiler) :
    (option.profiler?.getD before).isEnabled = option.profiling?.getD before.isEnabled := by
  cases option <;> rfl

def schedule? : PlanOption → Option GridSchedule
  | schedule grids => some grids
  | _ => none

def device? : PlanOption → Option Nat
  | device index => some index
  | _ => none

/-- What was said last. -/
def last? (tells : PlanOption → Option α) (options : List PlanOption) : Option α :=
  (options.filterMap tells).getLast?

private theorem last?_concat (tells : PlanOption → Option α) (options : List PlanOption) (option : PlanOption) :
    last? tells (options ++ [option]) = (tells option).or (last? tells options) := by
  unfold last?
  rw [List.filterMap_append, List.getLast?_append]
  cases said : tells option <;> simp [said]

private theorem getD_last?_concat (tells : PlanOption → Option α) (options : List PlanOption) (option : PlanOption)
    (first : α) :
    (last? tells (options ++ [option])).getD first = (tells option).getD ((last? tells options).getD first) := by
  rw [last?_concat]
  cases tells option <;> rfl

private theorem memoryLimit_configure (config : Config) (option : PlanOption) :
    (option.configure config).memoryLimit = option.limit?.getD config.memoryLimit := by
  cases option <;> rfl

private theorem memoryLimit_foldl (options : List PlanOption) (config : Config) :
    (options.foldl configure config).memoryLimit = (last? limit? options).getD config.memoryLimit := by
  induction options generalizing config with
  | nil => rfl
  | cons option rest ih =>
    rw [List.foldl_cons, ih, memoryLimit_configure]
    unfold last?
    rw [List.filterMap_cons]
    cases option.limit? with
    | none => rfl
    | some limit =>
      dsimp only
      rw [List.getLast?_cons]
      rfl

end PlanOption

/-! ### Plans -/

/-- The machine of the plan, if it has one, is set as the plan says, and measures for its profile. -/
def Plan.InStep (plan : Plan) : Prop :=
  ∀ m, plan.machine = some m →
    m.config = plan.config ∧ m.schedule = plan.schedule ∧ m.profiler = plan.profiler

namespace PlanSession

variable {s t : PlanSession} {m : Machine} {option : PlanOption} {α : Type}

/-- The plan is set as before, and its machine is no less in step. -/
structure Steady (s t : PlanSession) : Prop where
  options : t.plan.options = s.plan.options
  config : t.plan.config = s.plan.config
  schedule : t.plan.schedule = s.plan.schedule
  device : t.plan.device = s.plan.device
  inStep : s.plan.InStep → t.plan.InStep
  measures : s.plan.InStep → t.plan.profiler.isEnabled = s.plan.profiler.isEnabled
  limit : s.context.memory.Relimited s.plan.config.memoryLimit t.context.memory

instance : Op.Transition Steady where
  refl _ := ⟨rfl, rfl, rfl, rfl, id, fun _ => rfl, .inl rfl⟩
  trans first second :=
    ⟨second.options.trans first.options, second.config.trans first.config,
      second.schedule.trans first.schedule, second.device.trans first.device,
      fun inStep => second.inStep (first.inStep inStep),
      fun inStep => (second.measures (first.inStep inStep)).trans (first.measures inStep),
      first.limit.trans (first.config ▸ second.limit)⟩

private theorem steady_of_plan (plan : t.plan = s.plan)
    (limit : s.context.memory.Relimited s.plan.config.memoryLimit t.context.memory) : Steady s t := by
  refine ⟨by rw [plan], by rw [plan], by rw [plan], by rw [plan], ?_, fun _ => by rw [plan], limit⟩
  rw [plan]
  exact id

private theorem steady_onMachine {op : MachineOp α} (steady : Op.Moves op Session.Steady)
    (there : s.plan.machine = some m) : Steady s (Plan.onMachine m op s).state := by
  unfold Plan.onMachine
  rcases s.registry.device s.plan.device with e | d
  · exact Op.Transition.refl s
  dsimp only
  have kept := steady ⟨s.context, d, m⟩
  rcases ran : op ⟨s.context, d, m⟩ with ⟨result, t, log⟩
  rw [ran] at kept
  refine ⟨rfl, rfl, rfl, rfl, fun inStep => ?_, fun inStep => ?_, .inl kept.limit⟩
  · obtain ⟨config, schedule, _⟩ := inStep m there
    rintro _ ⟨⟩
    exact ⟨kept.config.trans config, kept.schedule.trans schedule, rfl⟩
  · obtain ⟨_, _, profiler⟩ := inStep m there
    exact kept.measures.trans (congrArg Profiler.isEnabled profiler)

private theorem steady_ifMachine (absent : α) {op : MachineOp α} (steady : Op.Moves op Session.Steady) :
    Op.Moves (Plan.ifMachine absent op) Steady := by
  intro s
  unfold Plan.ifMachine
  rw [Op.get_bind]
  rcases there : s.plan.machine with _ | m
  · exact Op.Transition.refl s
  · exact steady_onMachine steady there

/-- Besides, the profiler is the same as before. -/
structure HandsOver (s t : PlanSession) : Prop extends Steady s t where
  profiler : t.plan.profiler = s.plan.profiler

/-- A new machine is built with the switches of the plan, and is handed its schedule and its profiler. The plan
keeps the profiler that it had. -/
theorem handsOver_ensureMachine (s : PlanSession) : HandsOver s (Plan.ensureMachine s).state := by
  have unchanged : HandsOver s s := ⟨Op.Transition.refl s, rfl⟩
  unfold Plan.ensureMachine
  rw [Op.get_bind]
  rcases there : s.plan.machine with _ | m
  case some => exact unchanged
  dsimp only
  rw [Op.bind_run]
  unfold Plan.buildMachine
  rcases s.registry.device s.plan.device with e | d
  · exact unchanged
  dsimp only
  have relimited := Machine.create_relimits s.plan.program s.plan.config (s.context, d)
  rcases built : Machine.create s.plan.program s.plan.config (s.context, d) with ⟨e | m, ⟨context, d'⟩, log⟩ <;>
    rw [built] at relimited <;> dsimp only
  · exact ⟨steady_of_plan rfl relimited, rfl⟩
  have config : m.config = s.plan.config := (Machine.create_fresh ⟨by rw [built], by rw [built]⟩).config
  unfold Plan.onMachine
  dsimp only
  rcases ({ s.registry with devices := s.registry.devices.set s.plan.device d' } : Registry).device
    s.plan.device with e | d''
  · exact ⟨steady_of_plan rfl relimited, rfl⟩
  dsimp only
  obtain ⟨t, handed, config', schedule, profiler, context'⟩ :=
    Machine.handOver_settles s.plan.profiler s.plan.schedule ⟨context, d'', m⟩
  rcases ran : (do Machine.setProfiler s.plan.profiler; Machine.setSchedule s.plan.schedule : MachineOp Unit)
    ⟨context, d'', m⟩ with ⟨result, t', log'⟩
  rw [Op.Yields, ran] at handed
  obtain ⟨_, rfl⟩ := handed
  refine ⟨⟨rfl, rfl, rfl, rfl, fun _ => ?_, fun _ => congrArg Profiler.isEnabled profiler, ?_⟩, profiler⟩
  · rintro _ ⟨⟩
    exact ⟨config'.trans config, schedule, rfl⟩
  · show s.context.memory.Relimited _ t'.context.memory
    rw [show t'.context = context from context']
    exact relimited

private theorem steady_machineWork {op : MachineOp α} (steady : Op.Moves op Session.Steady) :
    Op.Moves (Plan.machineWork op) Steady := by
  refine Op.moves_bind (fun s => (handsOver_ensureMachine s).toSteady) fun _ s => ?_
  rw [Op.get_bind]
  rcases there : s.plan.machine with _ | m
  · exact Op.Transition.refl s
  · exact steady_onMachine steady there

private theorem steady_onDevice (op : DeviceOp α) : Op.Moves (Plan.onDevice op) Steady := by
  intro s
  unfold Plan.onDevice
  rcases s.registry.device s.plan.device with e | d
  · exact Op.Transition.refl s
  · exact steady_of_plan rfl (.inl rfl)

private theorem steady_freeDeviceMemory : Op.Moves Plan.freeDeviceMemory Steady :=
  steady_ifMachine 0 Session.Tolerant.freeDeviceMemory

/-- Releases are not measured. -/
theorem profiler_freeDeviceMemory (inStep : s.plan.InStep) :
    (Plan.freeDeviceMemory s).state.plan.profiler = s.plan.profiler := by
  unfold Plan.freeDeviceMemory Plan.ifMachine
  rw [Op.get_bind]
  rcases there : s.plan.machine with _ | m
  · rfl
  dsimp only [Plan.onMachine]
  rcases s.registry.device s.plan.device with e | d
  · rfl
  have kept := Machine.profiler_freeDeviceMemory ⟨s.context, d, m⟩
  exact kept.trans (inStep m there).2.2

/-- Nothing that a plan is asked for changes its settings. -/
theorem steady_command (command : PlanCommand) : Op.Moves command.run Steady := by
  cases command with
  | execute =>
    refine Op.moves_map (Op.moves_bind Op.moves_get fun s => steady_machineWork ?_)
    refine Op.moves_bind Op.moves_get fun t => Op.moves_ite ?_ (Session.Tolerant.execute _)
    exact Op.moves_bind (Machine.moves_warmup (Session.Tolerant.execute _)) fun _ => Session.Tolerant.execute _
  | warmup => exact steady_machineWork (Machine.moves_warmup (Session.Tolerant.execute _))
  | resetDevice =>
    refine Op.moves_bind (steady_onDevice _) fun _ s => ?_
    rw [Op.get_bind]
    rcases there : s.plan.machine with _ | m
    · exact Op.Transition.refl s
    · exact Op.related_bind (steady_onMachine Machine.moves_forgetBuffers there) fun _ => Op.moves_emit _ _
  | freeDeviceMemory => exact Op.moves_map steady_freeDeviceMemory

/-- The option is noted, and nothing else is set in another way; the machine is in step then. -/
structure Notes (option : PlanOption) (s t : PlanSession) : Prop where
  options : t.plan.options = s.plan.options ++ [option]
  config : t.plan.config = s.plan.config
  schedule : t.plan.schedule = s.plan.schedule
  device : t.plan.device = s.plan.device
  profiler : t.plan.profiler = s.plan.profiler
  inStep : t.plan.InStep
  limit : s.context.memory.Relimited s.plan.config.memoryLimit t.context.memory

private theorem notes_apply (ran : Op.Yields (Plan.apply option) s () t) : Notes option s t := by
  let noted : PlanSession := { s with plan := { s.plan with options := s.plan.options ++ [option] } }
  let settings : MachineOp Unit := do
    Machine.setConfig s.plan.config
    Machine.setProfiler s.plan.profiler
    Machine.setSchedule s.plan.schedule
  have handed : Op.Yields (Plan.ifMachine () settings) noted () t := by
    simp only [Plan.apply, Op.yields_bind, Op.yields_get, Op.yields_emit, Plan.modifyPlan,
      Op.yields_modify] at ran
    obtain ⟨_, _, ⟨rfl, rfl⟩, _, _, rfl, _, _, rfl, handed⟩ := ran
    exact handed
  rcases made : s.plan.machine with _ | m
  · obtain rfl : noted = t := (ifMachine_absent (s := noted) () settings made).2.symm.trans handed.2
    refine ⟨rfl, rfl, rfl, rfl, rfl, fun m made' => ?_, .inl rfl⟩
    cases made.symm.trans made'
  rcases found : s.registry.device s.plan.device with e | d
  · have refused : (Plan.ifMachine () settings noted).result = .error e := by
      unfold Plan.ifMachine
      rw [Op.get_bind, made]
      simp only [Plan.onMachine, noted, found]
    cases refused.symm.trans handed.1
  · obtain ⟨u, settled, config, schedule, profiler, relimited⟩ :=
      Machine.settings_settle s.plan.config s.plan.profiler s.plan.schedule ⟨s.context, d, m⟩
    obtain ⟨_, state⟩ := ifMachine_present (s := noted) () settings made (device_ok_iff.1 found)
    obtain rfl : Plan.update noted u = t := by
      rw [← handed.2, state, ← settled.2]
    refine ⟨rfl, rfl, rfl, rfl, profiler, ?_, relimited⟩
    rintro _ ⟨⟩
    exact ⟨config, schedule, rfl⟩

/-- The option is noted and does what it says; the machine is in step then. -/
structure Takes (option : PlanOption) (s t : PlanSession) : Prop where
  options : t.plan.options = s.plan.options ++ [option.noted]
  config : t.plan.config = option.configure s.plan.config
  schedule : t.plan.schedule = option.schedule?.getD s.plan.schedule
  device : t.plan.device = option.device?.getD s.plan.device
  profiler : t.plan.profiler = option.profiler?.getD s.plan.profiler
  inStep : t.plan.InStep
  limit : ∀ limit, option.limit? = some limit → t.context.memory.limit = MemoryBudget.normalLimit limit
  relimited : option.limit? = none → s.context.memory.Relimited s.plan.config.memoryLimit t.context.memory

/-- An option that changes one thing in the plan and hands over what the plan says then. -/
theorem notes_setting {change : Plan → Plan}
    (ran : Op.Yields (do Plan.modifyPlan change; Plan.apply option) s () t) :
    Notes option { s with plan := change s.plan } t := by
  obtain ⟨_, changed, first, rest⟩ := Op.yields_bind.1 ran
  obtain rfl : { s with plan := change s.plan } = changed := first.2
  exact notes_apply rest

/-- The same, with a limit that is set at once. -/
theorem notes_limit {change : Plan → Plan} {limit : Option Nat}
    (ran : Op.Yields (do Plan.modifyPlan change; Plan.setLimit limit; Plan.apply option) s () t) :
    Notes option
      { s with plan := change s.plan, context.memory := s.context.memory.setLimit limit } t := by
  obtain ⟨_, changed, first, rest⟩ := Op.yields_bind.1 ran
  obtain ⟨_, limited, second, third⟩ := Op.yields_bind.1 rest
  obtain rfl : { s with plan := change s.plan } = changed := first.2
  obtain rfl : { s with plan := change s.plan, context.memory := s.context.memory.setLimit limit } = limited :=
    second.2
  exact notes_apply third

private theorem takes_withDevice {index : Nat} (inStep : s.plan.InStep)
    (ran : Op.Yields (Plan.withDevice index) s () t) :
    Takes (.device index) s t := by
  obtain ⟨_, _, looked, ran⟩ := Op.yields_bind.1 ran
  obtain ⟨rfl, rfl⟩ := Op.yields_get.1 looked
  obtain ⟨_, u, known, rest⟩ := Op.yields_bind.1 ran
  obtain ⟨_, rfl⟩ := Op.yields_ofExcept.1 known
  by_cases same : index = s.plan.device
  · rw [if_pos same] at rest
    have notes := notes_apply rest
    exact ⟨notes.options, notes.config, notes.schedule, notes.device.trans same.symm, notes.profiler, notes.inStep,
      nofun, fun _ => notes.limit⟩
  · rw [if_neg same] at rest
    obtain ⟨_, u, freed, rest⟩ := Op.yields_bind.1 rest
    -- What was bound on the old device is given back, which leaves the settings as they are.
    have steady := steady_freeDeviceMemory.yields freed
    have measured : u.plan.profiler = s.plan.profiler := freed.2 ▸ profiler_freeDeviceMemory inStep
    have notes := notes_setting rest
    refine ⟨?_, notes.config.trans steady.config, notes.schedule.trans steady.schedule, notes.device,
      notes.profiler.trans measured, notes.inStep, nofun,
      fun _ => steady.limit.trans (steady.config ▸ notes.limit)⟩
    exact notes.options.trans (congrArg (· ++ [PlanOption.device index]) steady.options)

/-- Every option does what it says. -/
theorem takes_option (inStep : s.plan.InStep) (ran : Op.Yields option.run s () t) : Takes option s t := by
  cases option with
  | device index => exact takes_withDevice inStep ran
  | memoryLimit limit =>
    obtain ⟨bytes, _, known, rest⟩ := Op.yields_bind.1 ran
    obtain ⟨parsed, rfl⟩ := Op.yields_ofExcept.1 known
    have size : Text.parseSize? limit = some bytes := by
      unfold parseByteSize at parsed
      split at parsed <;> cases parsed
      assumption
    have notes := notes_limit rest
    refine ⟨notes.options, ?_, notes.schedule, notes.device, notes.profiler, notes.inStep, ?_, nofun⟩
    · rw [notes.config, PlanOption.configure, size]
    · rintro _ ⟨⟩
      rw [size]
      exact notes.limit.inForce rfl
  | noMemoryLimit =>
    have notes := notes_limit ran
    refine ⟨notes.options, notes.config, notes.schedule, notes.device, notes.profiler, notes.inStep, ?_, nofun⟩
    rintro _ ⟨⟩
    exact notes.limit.inForce rfl
  | _ =>
    have notes := notes_setting ran
    exact ⟨notes.options, notes.config, notes.schedule, notes.device, notes.profiler, notes.inStep, nofun,
      fun _ => notes.limit⟩

end PlanSession

/-! ### Histories -/

/-- The plan is set as the options say that it was given, the last one counting where they disagree; it lists them
in their order, and its machine is in step. -/
structure Plan.Follows (plan start : Plan) (given : List PlanOption) : Prop where
  options : plan.options = given.map PlanOption.noted
  config : plan.config = given.foldl PlanOption.configure start.config
  schedule : plan.schedule = (PlanOption.last? PlanOption.schedule? given).getD start.schedule
  device : plan.device = (PlanOption.last? PlanOption.device? given).getD start.device
  profile : plan.profile?.isSome = (PlanOption.last? PlanOption.profiling? given).getD start.config.profiler
  inStep : plan.InStep

namespace Plan

variable {plan start : Plan} {given : List PlanOption} {option : PlanOption} {s t : PlanSession}

private theorem isSome_profile? (plan : Plan) : plan.profile?.isSome = plan.profiler.isEnabled := by
  unfold profile?
  cases plan.profiler <;> rfl

private theorem follows_create (r : Registry) (program : Bytes) (config : Config) :
    (create r program config).Follows (create r program config) [] where
  options := rfl
  config := rfl
  schedule := rfl
  device := rfl
  profile := (isSome_profile? _).trans (Profiler.isEnabled_create config.profiler)
  inStep _ made := nomatch made

private theorem Follows.steady (follows : s.plan.Follows start given) (steady : s.Steady t) :
    t.plan.Follows start given where
  options := steady.options.trans follows.options
  config := steady.config.trans follows.config
  schedule := steady.schedule.trans follows.schedule
  device := steady.device.trans follows.device
  profile := by
    rw [isSome_profile?, steady.measures follows.inStep, ← isSome_profile?]
    exact follows.profile
  inStep := steady.inStep follows.inStep

private theorem Follows.takes (follows : s.plan.Follows start given) (takes : PlanSession.Takes option s t) :
    t.plan.Follows start (given ++ [option]) where
  options := by rw [takes.options, follows.options, List.map_append, List.map_singleton]
  config := by rw [takes.config, follows.config, List.foldl_append, List.foldl_cons, List.foldl_nil]
  schedule := by rw [takes.schedule, follows.schedule, PlanOption.getD_last?_concat]
  device := by rw [takes.device, follows.device, PlanOption.getD_last?_concat]
  profile := by
    rw [isSome_profile?, takes.profiler, PlanOption.isEnabled_profiler?, ← isSome_profile?, follows.profile,
      PlanOption.getD_last?_concat]
  inStep := takes.inStep

end Plan

namespace Planner

variable {others : Planner → Planner → Prop} {slot : Nat} {start plan : Plan} {given : List PlanOption}
  {option : PlanOption} {p q : Planner}

/-- A plan was made as `start`, was given options, and was asked for this and that; in between there was anything
else that `others` allows and that left the plan alone. -/
inductive Lives (others : Planner → Planner → Prop) (slot : Nat) (start : Plan) :
    List PlanOption → Planner → Prop where
  | create {p : Planner} (reachable : p.Reachable fun _ => True) (program : Bytes) (config : Config)
      (made : start = .create p.registry program config) :
      Lives others slot start [] (create slot program config p).state
  | option {given : List PlanOption} {p q : Planner} (lives : Lives others slot start given p)
      (option : PlanOption) (applied : Op.Yields (applyOption slot option.run) p (some ()) q) :
      Lives others slot start (given ++ [option]) q
  | command {given : List PlanOption} {p : Planner} (lives : Lives others slot start given p)
      (command : PlanCommand) : Lives others slot start given (onPlan slot command.run p).state
  | other {given : List PlanOption} {p q : Planner} (lives : Lives others slot start given p)
      (step : Step (fun _ => True) p q) (spared : q.plan? slot = p.plan? slot) (allowed : others p q) :
      Lives others slot start given q

/-- The limit of the budget is as before. -/
def SameLimit (before after : Planner) : Prop :=
  after.context.memory.limit = before.context.memory.limit

private theorem Lives.reachable (lives : Lives others slot start given p) : p.Reachable fun _ => True := by
  induction lives with
  | create reachable program config made => exact .step reachable (.create _ slot program config)
  | option _ option applied reachable => exact .step reachable (applied.2 ▸ .option _ slot option)
  | command _ command reachable => exact .step reachable (.command _ slot command)
  | other _ step _ _ reachable => exact .step reachable step

/-- What an option that could be applied has done. -/
theorem applyOption_takes {op : PlanOp Unit} (there : p.plan? slot = some plan)
    (applied : Op.Yields (applyOption slot op) p (some ()) q) :
    ∃ t, Op.Yields op (p.session plan) () t ∧ q.plan? slot = some t.plan ∧ q.context = t.context := by
  rcases ran : op (p.session plan) with ⟨e | ⟨⟩, t, log⟩
  · have failed := (applyOption_failed op there (congrArg Outcome.result ran)).1
    cases failed.symm.trans applied.1
  · have done : Op.Yields op (p.session plan) () t := by
      rw [Op.Yields, ran]
      exact ⟨rfl, rfl⟩
    obtain rfl := (applyOption_yields op there done).2.symm.trans applied.2
    exact ⟨t, done, (plan?_setSlot _ slot slot _).trans (if_pos rfl), rfl⟩

/-- A plan that lives is there, and follows its options. -/
theorem Lives.follows (lives : Lives others slot start given p) :
    ∃ plan, p.plan? slot = some plan ∧ plan.Follows start given := by
  induction lives with
  | @create p _ program config made =>
    subst made
    exact ⟨_, (plan?_setSlot p slot slot _).trans (if_pos rfl), Plan.follows_create _ _ _⟩
  | option _ option applied ih =>
    obtain ⟨plan, there, follows⟩ := ih
    obtain ⟨t, ran, there', _⟩ := applyOption_takes there applied
    exact ⟨t.plan, there', Plan.Follows.takes follows (PlanSession.takes_option follows.inStep ran)⟩
  | @command _ p _ command ih =>
    obtain ⟨plan, there, follows⟩ := ih
    refine ⟨(command.run (p.session plan)).state.plan, ?_, ?_⟩
    · rw [onPlan_present there, plan?_setSlot, if_pos rfl]
    · exact Plan.Follows.steady follows (PlanSession.steady_command command _)
  | other _ _ spared _ ih =>
    obtain ⟨plan, there, follows⟩ := ih
    exact ⟨plan, spared.trans there, follows⟩

/-- If nobody else sets the limit, the one that was asked for last is in force. -/
theorem Lives.limit (lives : Lives others slot start given p)
    (alone : ∀ before after, others before after → before.SameLimit after)
    {limit : Option Nat} (last : PlanOption.last? PlanOption.limit? given = some limit) :
    p.context.memory.limit = MemoryBudget.normalLimit limit := by
  -- The plan keeps the limit among its switches, so that whoever sets it again sets the same.
  have kept {given : List PlanOption} {p : Planner} (lives : Lives others slot start given p)
      (last : PlanOption.last? PlanOption.limit? given = some limit) :
      ∃ plan, p.plan? slot = some plan ∧ plan.Follows start given ∧ plan.config.memoryLimit = limit := by
    obtain ⟨plan, there, follows⟩ := lives.follows
    refine ⟨plan, there, follows, ?_⟩
    rw [follows.config, PlanOption.memoryLimit_foldl, last]
    rfl
  induction lives with
  | create => cases last
  | option lives option applied ih =>
    obtain ⟨plan, there, follows⟩ := lives.follows
    obtain ⟨t, ran, _, context⟩ := applyOption_takes there applied
    have takes := PlanSession.takes_option follows.inStep ran
    rw [context]
    rw [PlanOption.last?_concat] at last
    rcases said : option.limit? with _ | new
    · rw [said, Option.none_or] at last
      obtain ⟨plan', there', _, remembered⟩ := kept lives last
      cases there.symm.trans there'
      exact (remembered ▸ takes.relimited said).inForce (ih last)
    · rw [said, Option.some_or] at last
      cases last
      exact takes.limit _ said
  | @command _ p lives command ih =>
    obtain ⟨plan, there, _, remembered⟩ := kept lives last
    have steady := PlanSession.steady_command command (p.session plan)
    rw [onPlan_present there]
    exact (remembered ▸ steady.limit).inForce (ih last)
  | other lives _ _ allowed ih => exact (alone _ _ allowed).trans (ih last)

/-- Options reach the machine of a plan, whether they came before or after it: whatever the plan has been given and
asked for, and whatever came in between, the plan is there, and has noted its options in their order; its
switches, its schedule, its device and whether it measures are what they say; and a machine that it has has the
same switches and the same schedule, measures for its profile, and is on its device. A machine that is built is
handed the profiler that the plan has, and so is one at every further option, unless that says otherwise. As long
as nobody else sets the limit of the budget, it is the one that was asked for last. -/
theorem options_reach_machine (lives : Lives others slot start given p) :
    ∃ plan, p.plan? slot = some plan ∧ plan.Follows start given ∧
      (∀ m, plan.machine = some m → p.Seats plan.device m) ∧
      (Plan.ensureMachine (p.session plan)).state.plan.profiler = plan.profiler ∧
      (∀ (option : PlanOption) q, Op.Yields (applyOption slot option.run) p (some ()) q →
        ∃ after, q.plan? slot = some after ∧ after.profiler = option.profiler?.getD plan.profiler) ∧
      ((∀ before after, others before after → before.SameLimit after) → ∀ limit,
        PlanOption.last? PlanOption.limit? given = some limit →
          p.context.memory.limit = MemoryBudget.normalLimit limit) := by
  obtain ⟨plan, there, follows⟩ := lives.follows
  refine ⟨plan, there, follows, fun m made => ?_, ?_, fun option q applied => ?_,
    fun alone limit last => lives.limit alone last⟩
  · exact seats_of_reachable lives.reachable there made
  · exact (PlanSession.handsOver_ensureMachine (p.session plan)).profiler
  · obtain ⟨t, ran, there', _⟩ := applyOption_takes there applied
    exact ⟨t.plan, there', (PlanSession.takes_option follows.inStep ran).profiler⟩

/-- A new plan in another slot. -/
theorem create_beside (p : Planner) {other : Nat} (different : other ≠ slot) (program : Bytes) (config : Config) :
    (create other program config p).state.plan? slot = p.plan? slot ∧
      p.SameLimit (create other program config p).state :=
  ⟨(plan?_setSlot p other slot _).trans (if_neg different), rfl⟩

private theorem Lives.applied (lives : Lives others slot start given p) (option : PlanOption)
    (success : (applyOption slot option.run p).result.toOption = some (some ())) :
    Lives others slot start (given ++ [option]) (applyOption slot option.run p).state := by
  rcases ran : (applyOption slot option.run p).result with e | done <;> rw [ran] at success
  · cases success
  · obtain rfl : done = some () := Option.some.inj success
    exact .option lives option ⟨ran, rfl⟩

def twoDevices : Planner where
  context := takingContext
  registry := { devices := [({}, false), ({ index := 1 }, false)].map fun d => Device.create d.1 d.2 }

/-- A plan is given options before it has a machine and while it has one, and moves to another device, where its
program cannot run, and back. In between another plan is made. -/
def restless : Planner :=
  let made := (create 0 takingProgram { useDependencies := false } twoDevices).state
  let measuring := (applyOption 0 PlanOption.profiler.run made).state
  let limited := (applyOption 0 (PlanOption.memoryLimit " 1KB ").run measuring).state
  let ran := (onPlan 0 PlanCommand.execute.run limited).state
  let joined := (create 1 takingProgram {} ran).state
  let moved := (applyOption 0 (PlanOption.device 1).run joined).state
  let failed := (onPlan 0 PlanCommand.execute.run moved).state
  let back := (applyOption 0 (PlanOption.device 0).run failed).state
  let rebuilt := (onPlan 0 PlanCommand.execute.run back).state
  (applyOption 0 (PlanOption.flush true).run rebuilt).state

private theorem restless_lives :
    Lives SameLimit 0 (.create twoDevices.registry takingProgram { useDependencies := false })
      [.profiler, .memoryLimit " 1KB ", .device 1, .device 0, .flush true] restless := by
  have new : twoDevices.Reachable fun _ => True := .start _ _ _ rfl
  have made : Lives SameLimit 0 _ [] (create 0 takingProgram { useDependencies := false } twoDevices).state :=
    .create new _ _ rfl
  have measuring := made.applied .profiler (by decide +kernel)
  have limited := measuring.applied (.memoryLimit " 1KB ") (by decide +kernel)
  have ran := limited.command .execute
  have different : 1 ≠ 0 := by decide
  have joined := ran.other (.create _ 1 takingProgram {}) (create_beside _ different _ _).1
    (create_beside _ different _ _).2
  have moved := joined.applied (.device 1) (by decide +kernel)
  have failed := moved.command .execute
  have back := failed.applied (.device 0) (by decide +kernel)
  have rebuilt := back.command .execute
  exact rebuilt.applied (.flush true) (by decide +kernel)

/-- The machine that it has then is its second one, and has all that was asked for. -/
theorem restless_in_step : ∃ plan m, restless.plan? 0 = some plan ∧ plan.machine = some m ∧
    m.config = { useDependencies := false, flushOnEnd := true, profiler := true, memoryLimit := some 1024 } ∧
    m.profiler = plan.profiler ∧ plan.profile?.isSome = true ∧ restless.Seats 0 m ∧
    plan.options = [.profiler, .memoryLimit "1KB", .device 1, .device 0, .flush true] ∧
    restless.context.memory.limit = some 1024 := by
  obtain ⟨plan, there, follows, seats, _, _, limit⟩ := options_reach_machine restless_lives
  have working : (restless.plan? 0).any (fun plan => plan.machine.isSome) = true := by
    decide +kernel
  rw [there] at working
  obtain ⟨m, made⟩ := Option.isSome_iff_exists.1 working
  obtain ⟨config, _, profiler⟩ := follows.inStep m made
  have size : Text.parseSize? " 1KB " = some 1024 := by decide +kernel
  have device : plan.device = 0 := follows.device
  refine ⟨plan, m, there, made, ?_, profiler, follows.profile, device ▸ seats m made, follows.options, ?_⟩
  · rw [config, follows.config]
    simp only [List.foldl_cons, List.foldl_nil, PlanOption.configure, size]
    rfl
  · rw [limit (fun _ _ same => same) (some 1024) (congrArg some size)]
    rfl

end Planner
end Offload
