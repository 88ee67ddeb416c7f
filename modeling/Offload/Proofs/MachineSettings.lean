import Offload.Proofs.Commands
import Offload.Proofs.LostBuffers

/-! The settings of machines. Work leaves a machine set as it was, and the limit of the budget too; what a new
machine is built with, or an old one is handed, it is set to from then on. And whatever happens, a machine is
described as the device that it works on. -/
namespace Offload

/-! ### What work leaves as it was set -/

/-- The limit is as before, or it was set once more to what the settings say, if they say anything. -/
def MemoryBudget.Relimited (limit : Option Nat) (before after : MemoryBudget) : Prop :=
  after.limit = before.limit ∨ limit.isSome ∧ after.limit = normalLimit limit

namespace MemoryBudget

variable {limit : Option Nat} {one two three : MemoryBudget}

theorem Relimited.trans (first : one.Relimited limit two) (second : two.Relimited limit three) :
    one.Relimited limit three := by
  rcases second with same | again
  · rcases first with same' | again
    · exact .inl (same.trans same')
    · exact .inr ⟨again.1, same.trans again.2⟩
  · exact .inr again

/-- A limit that is in force stays in force. -/
theorem Relimited.inForce (relimited : one.Relimited limit two) (before : one.limit = normalLimit limit) :
    two.limit = normalLimit limit := by
  rcases relimited with same | ⟨_, again⟩
  · exact same.trans before
  · exact again

end MemoryBudget

theorem Profiler.isEnabled_create (enabled : Bool) : (create enabled).isEnabled = enabled := by
  cases enabled <;> rfl

namespace Session

/-- The machine is set as before, and so is the limit. -/
structure Steady (before after : Session) : Prop where
  config : after.machine.config = before.machine.config
  schedule : after.machine.schedule = before.machine.schedule
  measures : after.machine.profiler.isEnabled = before.machine.profiler.isEnabled
  limit : after.context.memory.limit = before.context.memory.limit

instance : Op.Transition Steady where
  refl _ := ⟨rfl, rfl, rfl, rfl⟩
  trans first second :=
    ⟨second.config.trans first.config, second.schedule.trans first.schedule,
      second.measures.trans first.measures, second.limit.trans first.limit⟩

instance : Tolerant Device.Any Steady where
  device _ _ _ := ⟨rfl, rfl, rfl, rfl⟩
  timer s _ _ := ⟨rfl, rfl, by cases s.machine.profiler <;> rfl, rfl⟩
  kernelTime s _ _ := ⟨rfl, rfl, by cases s.machine.profiler <;> rfl, rfl⟩
  passes _ _ _ _ := ⟨rfl, rfl, rfl, rfl⟩
  metric s _ _ _ := ⟨rfl, rfl, by cases s.machine.profiler <;> rfl, rfl⟩
  object _ _ _ := ⟨rfl, rfl, rfl, rfl⟩
  lists _ _ _ := ⟨rfl, rfl, rfl, rfl⟩
  code _ _ _ _ := ⟨rfl, rfl, rfl, rfl⟩
  binding _ _ _ := ⟨rfl, rfl, rfl, rfl⟩
  forget _ := ⟨rfl, rfl, rfl, rfl⟩
  charge _ _ := ⟨rfl, rfl, rfl, rfl⟩
  discharge _ _ := ⟨rfl, rfl, rfl, rfl⟩

/-- The machine measures for the same profile. -/
def SameProfiler (before after : Session) : Prop :=
  after.machine.profiler = before.machine.profiler

instance : Op.Transition SameProfiler where
  refl _ := rfl
  trans first second := Eq.trans second first

end Session

namespace Machine

variable {bytes : Bytes} {config : Config} {site site' : Site} {m : Machine}

/-- Whatever is released, the profiler stays the same. -/
theorem profiler_freeDeviceMemory : Op.Moves freeDeviceMemory Session.SameProfiler := by
  refine Op.moves_bind Op.moves_get fun _ => moves_deallocAll (fun object s => ?_) _
  rcases ran : (dealloc object s).result with e | freed
  · rw [refuses_dealloc object s e ran]
    rfl
  · obtain ⟨_, _, _, _, ⟨_, _, same⟩ | ⟨_, _, _, _, same⟩⟩ := yields_dealloc.1 ⟨ran, rfl⟩
    · exact same ▸ Op.Transition.refl s
    · rw [← same]
      rfl

private theorem setSchedule_settles (schedule : GridSchedule) (s : Session) :
    (setSchedule schedule s).state.machine.schedule = schedule ∧
      (setSchedule schedule s).state.machine.config = s.machine.config ∧
      (setSchedule schedule s).state.machine.profiler = s.machine.profiler ∧
      (setSchedule schedule s).state.context = s.context := by
  obtain ⟨cache, state, _⟩ := setSchedule_slots schedule s
  rw [state]
  exact ⟨rfl, rfl, rfl, rfl⟩

private theorem setConfig_settles (config : Config) (s : Session) :
    (setConfig config s).state.machine.config = config ∧
      s.context.memory.Relimited config.memoryLimit (setConfig config s).state.context.memory := by
  have configured : (if config.maxEvents = s.machine.config.maxEvents then { s.machine with config }
      else { s.machine with config, lists := .create s.machine.lists.size config.maxEvents } : Machine).config =
        config := by
    split <;> rfl
  unfold setConfig
  rcases known : config.memoryLimit with _ | limit
  · exact ⟨configured, .inl rfl⟩
  · exact ⟨configured, .inr ⟨rfl, rfl⟩⟩

/-- The profile and the schedule of a plan, handed over to a new machine. -/
theorem handOver_settles (profiler : Profiler) (schedule : GridSchedule) (s : Session) :
    ∃ t, Op.Yields (do setProfiler profiler; setSchedule schedule) s () t ∧
      t.machine.config = s.machine.config ∧ t.machine.schedule = schedule ∧ t.machine.profiler = profiler ∧
      t.context = s.context := by
  obtain ⟨scheduled, config, measured, context⟩ :=
    setSchedule_settles schedule { s with machine.profiler := profiler }
  obtain ⟨t, ran, _⟩ := setSchedule_yields schedule { s with machine.profiler := profiler }
  rw [ran.2] at scheduled config measured context
  exact ⟨t, Op.yields_bind.2 ⟨(), _, ⟨rfl, rfl⟩, ran⟩, config, scheduled, measured, context⟩

/-- All the settings of a plan, handed over to a machine. -/
theorem settings_settle (config : Config) (profiler : Profiler) (schedule : GridSchedule) (s : Session) :
    ∃ t, Op.Yields (do setConfig config; setProfiler profiler; setSchedule schedule) s () t ∧
      t.machine.config = config ∧ t.machine.schedule = schedule ∧ t.machine.profiler = profiler ∧
      s.context.memory.Relimited config.memoryLimit t.context.memory := by
  obtain ⟨configured, relimited⟩ := setConfig_settles config s
  obtain ⟨u, ran, _⟩ := setConfig_yields config s
  rw [ran.2] at configured relimited
  obtain ⟨t, handed, sameConfig, scheduled, measured, sameContext⟩ := handOver_settles profiler schedule u
  exact ⟨t, Op.yields_bind.2 ⟨(), u, ran, handed⟩, sameConfig.trans configured, scheduled, measured,
    sameContext ▸ relimited⟩

/-- A new machine is described as its device is. -/
theorem create_info (made : Op.Yields (create bytes config) site m site') : m.info = site'.2.info := by
  have kept := (siteKeeps_create bytes config).yields made
  unfold create at made
  split at made
  · simp at made
  · simp only [Op.yields_bind, Op.yields_get, Op.yields_modify, Op.yields_emit, Op.yields_pure] at made
    obtain ⟨_, _, ⟨rfl, rfl⟩, _, _, _, _, _, _, _, _, _, _, _, _, rfl, _⟩ := made
    exact kept.device.info.symm

theorem create_relimits (bytes : Bytes) (config : Config) :
    Op.Moves (create bytes config) fun before after =>
      before.1.memory.Relimited config.memoryLimit after.1.memory := by
  have transition : Op.Transition fun before after : Site =>
      before.1.memory.Relimited config.memoryLimit after.1.memory :=
    ⟨fun _ => .inl rfl, fun first second => first.trans second⟩
  unfold create
  split
  · exact Op.moves_fail _
  refine Op.moves_bind Op.moves_get fun site => ?_
  refine Op.moves_bind (fun site => .inl rfl) fun _ => ?_
  refine Op.moves_bind (Op.moves_modify fun site => ?_) fun _ => ?_
  · obtain ⟨context, device⟩ := site
    rcases known : config.memoryLimit with _ | limit
    · exact .inl rfl
    · exact .inr ⟨rfl, rfl⟩
  refine Op.moves_bind Op.moves_get fun site => ?_
  exact Op.moves_bind (Op.moves_emit _) fun _ => Op.moves_pure _

end Machine

/-! ### Where machines are -/

namespace Device

/-- The device is described as before. -/
def SameInfo (before after : Device) : Prop :=
  after.info = before.info

instance : Op.Transition SameInfo where
  refl _ := rfl
  trans first second := Eq.trans second first

instance : Tolerates [] SameInfo where
  change _ change := by cases change <;> rfl

instance survives_sameInfo : Survives SameInfo := survives_of_allowed (by decide)

end Device

/-- The machine is described as its device is. -/
def Session.Placed (s : Session) : Prop :=
  s.machine.info = s.device.info

/-- A machine is described as it was when it was built. -/
def Session.SameMachine (before after : Session) : Prop :=
  after.machine.info = before.machine.info

instance : Op.Transition Session.SameMachine where
  refl _ := rfl
  trans first second := Eq.trans second first

instance : Session.Tolerant Device.Any Session.SameMachine where
  device _ _ _ := rfl
  timer _ _ _ := rfl
  kernelTime _ _ _ := rfl
  passes _ _ _ _ := rfl
  metric _ _ _ _ := rfl
  object _ _ _ := rfl
  lists _ _ _ := rfl
  code _ _ _ _ := rfl
  binding _ _ _ := rfl
  forget _ := rfl
  charge _ _ := rfl
  discharge _ _ := rfl

instance : Session.ToleratesSettings Session.SameMachine where
  settings _ _ _ _ _ := rfl
  limit _ _ := rfl

namespace Workspace

variable {w : Workspace} {seat index : Nat} {s : Session}

/-- The devices of all machines are there. -/
theorem registered_of_reachable (reachable : w.Reachable) :
    ∀ taken, some taken ∈ w.seats → taken.device < w.devices.length := by
  induction reachable with
  | start context devices unused => exact fun _ member => nomatch member
  | @step before after _ step registered =>
    intro taken member
    cases step with
    | build device program config =>
      rcases build_cases before device program config with same | ⟨d, site, found, _, seat, same, made⟩ <;>
        rw [same] at member ⊢ <;> rcases List.mem_append.1 member with old | new
      · exact registered taken old
      · cases List.mem_singleton.1 new
      · rw [List.length_set]
        exact registered taken old
      · rw [List.length_set, (made taken (List.mem_singleton.1 new).symm).1]
        exact (List.getElem?_eq_some_iff.1 found).1
    | machine seat c =>
      rcases present : before.session? seat with _ | ⟨index, s⟩
      · rw [onMachine_absent present] at member ⊢
        exact registered taken member
      · rw [onMachine_present present] at member ⊢
        obtain ⟨m, device, seated, found, rfl⟩ := session?_eq_some.1 present
        show taken.device < (before.devices.set index _).length
        rw [List.length_set]
        rcases List.mem_or_eq_of_mem_set member with old | new
        · exact registered taken old
        · cases new
          exact (List.getElem?_eq_some_iff.1 found).1
    | device index c =>
      rcases present : before.devices[index]? with _ | device
      · rw [onDevice_absent present] at member ⊢
        exact registered taken member
      · rw [onDevice_present present] at member ⊢
        rw [List.length_set]
        exact registered taken member
    | setLimit limit => exact registered taken member
    | setObject index object => exact registered taken member

/-- Whatever happens, a machine is described as the device that it works on. -/
theorem placed_of_reachable (reachable : w.Reachable) (present : w.session? seat = some (index, s)) :
    s.Placed := by
  have everywhere : Device.Everywhere Device.SameInfo := Device.everywhere_of_tolerates
  refine every_session (sessions_besides (P := Session.Placed) everywhere ?_ ?_ ?_ reachable) present
  · exact fun _ _ _ m site made => Machine.create_info made
  · intro c s placed
    have device : _ = s.device.info := c.via Device.survives_sameInfo s
    have machine : _ = s.machine.info :=
      Session.Tolerant.command (R := Session.SameMachine) c s
    exact machine.trans (placed.trans device.symm)
  · exact fun s context device placed _ same => placed.trans same.symm

end Workspace

end Offload
