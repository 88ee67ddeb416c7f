import Mathlib.Logic.Function.Basic
import Mathlib.Logic.Relation
import Offload.Plan.Planner
import Offload.Proofs.Pool

/-! Histories of plans. Whatever a plan is asked for, its machine is asked for whole requests, and machines are
built and devices reset in between. So the machines of plans live in a workspace: there is a history of
whole requests in which each of them has a seat of its own. -/
namespace Offload

namespace Workspace

/-- A step of a history of whole requests. -/
inductive Request (permits : DeviceCommand → Prop) : Workspace → Workspace → Prop where
  | build (w : Workspace) (device : Nat) (program : Bytes) (config : Config) :
      Request permits w (w.build device program config).state
  | machine (w : Workspace) (seat : Nat) (command : MachineCommand) (whole : command.Whole) :
      Request permits w (w.onMachine seat command.run).state
  | device (w : Workspace) (index : Nat) (command : DeviceCommand) (permitted : permits command) :
      Request permits w (w.onDevice index command.run).state
  | setLimit (w : Workspace) (limit : Option Nat) :
      Request permits w { w with context.memory := w.context.memory.setLimit limit }
  | setObject (w : Workspace) (index : Nat) (object : HostObject) :
      Request permits w { w with context := w.context.setObject index object }

/-- What can come about from new devices and a context that nothing is charged to. -/
inductive Requested (permits : DeviceCommand → Prop) : Workspace → Prop where
  | start (context : Context) (devices : List (DeviceInfo × Bool)) (unused : context.memory.usage = 0) :
      Requested permits { context, devices := devices.map fun d => Device.create d.1 d.2 }
  | step {before after : Workspace} (requested : Requested permits before)
      (request : Request permits before after) : Requested permits after

variable {permits : DeviceCommand → Prop} {w v : Workspace} {seat index : Nat} {s t : Session}

private theorem Request.toStep (request : Request permits w v) : Step w v := by
  cases request with
  | build device program config => exact .build w device program config
  | machine seat command whole => exact .machine w seat command
  | device index command permitted => exact .device w index command
  | setLimit limit => exact .setLimit w limit
  | setObject index object => exact .setObject w index object

theorem Requested.reachable (requested : w.Requested permits) : w.Reachable := by
  induction requested with
  | start context devices unused => exact .start _ _ unused
  | step _ request reachable => exact .step reachable request.toStep

/-! ### As a pool -/

/-- The machines as tenants that share one context. -/
def tenants (w : Workspace) : List Tenant :=
  w.seats.filterMap (Option.map fun taken => ⟨0, taken.device, taken.machine⟩)

def pool (w : Workspace) : Pool :=
  { contexts := [w.context], devices := w.devices, tenants := w.tenants }

/-- How many seats are taken in front of one. -/
def rank (w : Workspace) (seat : Nat) : Nat :=
  ((w.seats.take seat).filterMap id).length

/-- The tenants around a seat. -/
theorem tenants_around {taken : Seat} (seated : w.seats[seat]? = some (some taken)) (entry : Option Seat) :
    ∃ front back, front.length = w.rank seat ∧
      w.tenants = front ++ ⟨0, taken.device, taken.machine⟩ :: back ∧
      ({ w with seats := w.seats.set seat entry } : Workspace).tenants =
        front ++ ((entry.map fun taken => (⟨0, taken.device, taken.machine⟩ : Tenant)).toList ++ back) := by
  obtain ⟨within, here⟩ := List.getElem?_eq_some_iff.1 seated
  let toTenant : Option Seat → Option Tenant := Option.map fun taken => ⟨0, taken.device, taken.machine⟩
  refine ⟨(w.seats.take seat).filterMap toTenant, (w.seats.drop (seat + 1)).filterMap toTenant, ?_, ?_, ?_⟩
  · rw [rank]
    induction w.seats.take seat with
    | nil => rfl
    | cons head rest ih => cases head <;> simpa [toTenant] using ih
  · have split : w.seats = w.seats.take seat ++ some taken :: w.seats.drop (seat + 1) := by
      rw [← here, List.getElem_cons_drop, List.take_append_drop]
    show w.seats.filterMap toTenant = _
    conv => lhs; rw [split]
    rw [List.filterMap_append, List.filterMap_cons]
    rfl
  · show (w.seats.set seat entry).filterMap toTenant = _
    rw [List.set_eq_take_append_cons_drop, if_pos within, List.filterMap_append, List.filterMap_cons]
    cases entry <;> rfl

/-- The tenant that stands for a seat. -/
theorem pool_tenant {taken : Seat} (seated : w.seats[seat]? = some (some taken)) :
    w.pool.tenants[w.rank seat]? = some ⟨0, taken.device, taken.machine⟩ := by
  obtain ⟨front, back, length, tenants, _⟩ := tenants_around seated none
  show w.tenants[w.rank seat]? = _
  rw [tenants, ← length, List.getElem?_append_right (Nat.le_refl _), Nat.sub_self]
  rfl

theorem pool_session? (present : w.session? seat = some (index, s)) :
    w.pool.session? (w.rank seat) = some (⟨0, index, s.machine⟩, s) := by
  obtain ⟨m, device, seated, found, rfl⟩ := session?_eq_some.1 present
  exact Pool.session?_eq_some.2 ⟨pool_tenant seated, rfl, found, rfl⟩

private theorem pool_update (present : w.session? seat = some (index, s)) (t : Session) :
    (w.update seat index t).pool = w.pool.put (w.rank seat) ⟨0, index, s.machine⟩ t := by
  obtain ⟨m, device, seated, found, rfl⟩ := session?_eq_some.1 present
  obtain ⟨front, back, length, tenants, changed⟩ := tenants_around seated (some ⟨index, t.machine⟩)
  have replaced : (w.update seat index t).tenants = w.tenants.set (w.rank seat) ⟨0, index, t.machine⟩ := by
    refine changed.trans ?_
    rw [tenants, ← length, List.set_append_right _ _ (Nat.le_refl _), Nat.sub_self]
    rfl
  unfold pool Pool.put
  rw [replaced]
  rfl

private theorem pool_build (w : Workspace) (device : Nat) (program : Bytes) (config : Config) :
    (w.build device program config).state.pool = w.pool.build 0 device program config := by
  have added (context : Context) (devices : List Device) (entry : Option Seat) :
      (⟨context, devices, w.seats ++ [entry]⟩ : Workspace).pool =
        { contexts := [context], devices
          tenants := w.tenants ++ (entry.map fun taken => (⟨0, taken.device, taken.machine⟩ : Tenant)).toList } := by
    unfold pool tenants
    rw [List.filterMap_append]
    cases entry <;> rfl
  unfold build Pool.build
  rw [show w.pool.contexts[0]? = some w.context from rfl, show w.pool.devices = w.devices from rfl]
  rcases w.devices[device]? with _ | d
  · exact (added w.context w.devices none).trans (by rw [Option.map_none, Option.toList_none, List.append_nil]; rfl)
  rcases built : Machine.create program config (w.context, d) with ⟨e | m, ⟨context, d'⟩, log⟩ <;>
    simp only [built]
  · exact added context (w.devices.set device d') none
  · exact added context (w.devices.set device d') (some ⟨device, m⟩)

/-- Machines that are asked for whole requests make up a pool. -/
theorem Requested.pool (requested : w.Requested permits) : w.pool.Reachable permits := by
  induction requested with
  | start context devices unused =>
    exact .start [context] devices fun c member => by rw [List.mem_singleton.1 member, unused]
  | @step before after _ request reachable =>
    cases request with
    | build device program config =>
      rw [pool_build]
      exact .step reachable (.build _ 0 device program config)
    | machine seat command whole =>
      rcases present : before.session? seat with _ | ⟨index, s⟩
      · rw [onMachine_absent present]
        exact reachable
      · rw [onMachine_present present, pool_update present,
          ← (Pool.onTenant_present (pool_session? present)).2]
        exact .step reachable (.request _ _ command whole)
    | device index command permitted =>
      rcases present : before.devices[index]? with _ | device
      · rw [onDevice_absent present]
        exact reachable
      · have moved := Pool.Reachable.step reachable (.device before.pool index command permitted)
        rw [Pool.onDevice_present present] at moved
        rw [onDevice_present present]
        exact moved
    | setLimit limit => exact .step reachable (.setLimit _ 0 limit)
    | setObject index object => exact .step reachable (.setObject _ 0 index object)

end Workspace

/-! ### What a machine is asked for -/

namespace Session

variable {s t : Session}

/-- Whole requests to its machine lead from the one session to the other. -/
def Asks : Session → Session → Prop :=
  Relation.ReflTransGen fun s t => ∃ command : MachineCommand, command.Whole ∧ (command.run s).state = t

instance : Op.Transition Asks where
  refl _ := .refl
  trans := Relation.ReflTransGen.trans

private theorem asks_command (command : MachineCommand) (whole : command.Whole) : Op.Moves command.run Asks :=
  fun _ => .single ⟨command, whole, rfl⟩

private theorem asks_execute (mode : Mode) : Op.Moves (Machine.execute mode) Asks := by
  intro s
  have asked := asks_command (.execute mode) trivial s
  rwa [MachineCommand.run, Op.map_state] at asked

private theorem asks_freeDeviceMemory : Op.Moves Machine.freeDeviceMemory Asks := by
  intro s
  have asked := asks_command .freeDeviceMemory trivial s
  rwa [MachineCommand.run, Op.map_state] at asked

private theorem asks_forgetBuffers : Op.Moves Machine.forgetBuffers Asks := by
  intro s
  have asked := asks_command .forgetBuffers trivial s
  rwa [MachineCommand.run, Op.map_state] at asked

end Session

namespace Workspace

variable {permits : DeviceCommand → Prop} {w : Workspace} {seat index : Nat} {s t : Session}

private theorem update_same (present : w.session? seat = some (index, s)) : w.update seat index s = w := by
  have same {α : Type} {l : List α} {i : Nat} {a : α} (found : l[i]? = some a) : l.set i a = l := by
    obtain ⟨within, rfl⟩ := List.getElem?_eq_some_iff.1 found
    exact List.set_getElem_self within
  obtain ⟨m, device, seated, found, rfl⟩ := session?_eq_some.1 present
  unfold update
  rw [same found, same seated]

private theorem update_update (w : Workspace) (s t : Session) :
    (w.update seat index s).update seat index t = w.update seat index t := by
  unfold update
  rw [List.set_set, List.set_set]

/-- A machine may go where it is asked to. -/
theorem Requested.asks (requested : w.Requested permits) (present : w.session? seat = some (index, s))
    (asks : s.Asks t) : (w.update seat index t).Requested permits := by
  induction asks with
  | refl => rwa [update_same present]
  | @tail u v _ asked requested =>
    obtain ⟨command, whole, rfl⟩ := asked
    have moved := Requested.step requested (.machine _ seat command whole)
    rwa [onMachine_present (session?_update present u), update_update] at moved

end Workspace

/-! ### What a plan is asked for -/

/-- The call that an option stands for. -/
def PlanOption.run : PlanOption → PlanOp Unit
  | warmup => Plan.withWarmup
  | device index => Plan.withDevice index
  | memoryLimit limit => Plan.withMemoryLimit limit
  | noMemoryLimit => Plan.withoutMemoryLimit
  | profiler => Plan.withProfiler
  | noProfiler => Plan.withoutProfiler
  | dependencies enabled => Plan.withDependencies enabled
  | flush enabled => Plan.withFlush enabled
  | traceCode => Plan.withTraceCode
  | schedule grids => Plan.withSchedule grids

/-- Something that a plan is asked for, its options aside. -/
inductive PlanCommand where
  | execute
  | warmup
  | resetDevice
  | freeDeviceMemory

def PlanCommand.run : PlanCommand → PlanOp Unit
  | execute => (fun _ => ()) <$> Plan.execute
  | warmup => Plan.warmup
  | resetDevice => Plan.resetDevice
  | freeDeviceMemory => (fun _ => ()) <$> Plan.freeDeviceMemory

namespace PlanSession

variable {permits : DeviceCommand → Prop} {w w' : Workspace} {held : Option Nat} {s t : PlanSession} {α : Type}

/-- The plan works in the workspace. The seat that is held for it is that of its machine, if it has one. -/
structure Seated (w : Workspace) (held : Option Nat) (s : PlanSession) : Prop where
  context : w.context = s.context
  devices : w.devices = s.registry.devices
  inRange : ∀ k, held = some k → k < w.seats.length
  machine : ∀ m, s.plan.machine = some m →
    ∃ k, held = some k ∧ w.seats[k]? = some (some ⟨s.plan.device, m⟩)

/-- Every seat but the one that is held stays as it is, and is not the one that is held then. -/
def Spares (held held' : Option Nat) (w w' : Workspace) : Prop :=
  ∀ k entry, held ≠ some k → w.seats[k]? = some entry → held' ≠ some k ∧ w'.seats[k]? = some entry

/-- From one session to the next the workspace goes on by whole requests, and spares other machines. -/
def Hosted (permits : DeviceCommand → Prop) (s t : PlanSession) : Prop :=
  ∀ w held, w.Requested permits → Seated w held s →
    ∃ w' held', w'.Requested permits ∧ Seated w' held' t ∧ Spares held held' w w'

private theorem spares_refl (held : Option Nat) (w : Workspace) : Spares held held w w :=
  fun _ _ other found => ⟨other, found⟩

instance : Op.Transition (Hosted permits) where
  refl s w held requested seated := ⟨w, held, requested, seated, spares_refl held w⟩
  trans first second w held requested seated := by
    obtain ⟨w', held', requested', seated', spares⟩ := first w held requested seated
    obtain ⟨w'', held'', requested'', seated'', spares'⟩ := second w' held' requested' seated'
    refine ⟨w'', held'', requested'', seated'', fun k entry other found => ?_⟩
    obtain ⟨other', found'⟩ := spares k entry other found
    exact spares' k entry other' found'

/-- What is about neither the machine of the plan nor its device. -/
theorem hosted_of_same (context : t.context = s.context) (devices : t.registry.devices = s.registry.devices)
    (machine : ∀ m, t.plan.machine = some m → s.plan.machine = some m ∧ t.plan.device = s.plan.device) :
    Hosted permits s t := by
  intro w held requested seated
  refine ⟨w, held, requested, ⟨seated.context.trans context.symm, seated.devices.trans devices.symm,
    seated.inRange, fun m there => ?_⟩, spares_refl held w⟩
  obtain ⟨before, device⟩ := machine m there
  rw [device]
  exact seated.machine m before

private theorem hosted_modifyPlan {change : Plan → Plan}
    (same : ∀ p m, (change p).machine = some m → p.machine = some m ∧ (change p).device = p.device) :
    Op.Moves (Plan.modifyPlan change) (Hosted permits) :=
  Op.moves_modify fun s => hosted_of_same rfl rfl (same s.plan)

private theorem hosted_setLimit (limit : Option Nat) : Op.Moves (Plan.setLimit limit) (Hosted permits) := by
  refine Op.moves_modify fun s w held requested seated => ?_
  refine ⟨_, held, .step requested (.setLimit w limit), ⟨?_, seated.devices, seated.inRange, seated.machine⟩,
    spares_refl held w⟩
  show { w.context with memory := w.context.memory.setLimit limit } = _
  rw [seated.context]

theorem device_ok_iff {r : Registry} {index : Nat} {d : Device} :
    r.device index = .ok d ↔ r.devices[index]? = some d := by
  unfold Registry.device
  split <;> simp_all

/-- Requests to a machine at a seat. -/
theorem hosted_requests {op : MachineOp α} (asks : Op.Moves op Session.Asks) {k : Nat} {m : Machine}
    (requested : w.Requested permits) (seated : Seated w (some k) s)
    (there : w.seats[k]? = some (some ⟨s.plan.device, m⟩)) :
    ∃ w', w'.Requested permits ∧ Seated w' (some k) (Plan.onMachine m op s).state ∧
      Spares (some k) (some k) w w' := by
  unfold Plan.onMachine
  rcases found : s.registry.device s.plan.device with e | d
  · exact ⟨w, requested, seated, spares_refl _ _⟩
  have here := device_ok_iff.1 found
  have present : w.session? k = some (s.plan.device, ⟨s.context, d, m⟩) := by
    refine Workspace.session?_eq_some.2 ⟨m, d, there, seated.devices ▸ here, ?_⟩
    rw [seated.context]
  have asked := asks ⟨s.context, d, m⟩
  simp only
  rcases ran : op ⟨s.context, d, m⟩ with ⟨result, t, log⟩
  rw [ran] at asked
  have within := seated.inRange k rfl
  refine ⟨_, requested.asks present asked, ⟨rfl, ?_, ?_, ?_⟩, ?_⟩
  · show w.devices.set s.plan.device t.device = _
    rw [seated.devices]
    rfl
  · rintro _ ⟨⟩
    show k < (w.seats.set k _).length
    rwa [List.length_set]
  · rintro _ ⟨⟩
    exact ⟨k, rfl, List.getElem?_set_self within⟩
  · intro other entry different before
    exact ⟨different, (List.getElem?_set_ne fun same => different (by rw [same])).trans before⟩

/-- Work of the machine of the plan. -/
theorem hosted_onMachine {op : MachineOp α} (asks : Op.Moves op Session.Asks) {m : Machine}
    (there : s.plan.machine = some m) : Hosted permits s (Plan.onMachine m op s).state := by
  intro w held requested seated
  obtain ⟨k, rfl, found⟩ := seated.machine m there
  obtain ⟨w', requested', seated', spares⟩ := hosted_requests asks requested seated found
  exact ⟨w', some k, requested', seated', spares⟩

private theorem hosted_ifMachine (absent : α) {op : MachineOp α} (asks : Op.Moves op Session.Asks) :
    Op.Moves (Plan.ifMachine absent op) (Hosted permits) := by
  intro s
  unfold Plan.ifMachine
  rw [Op.get_bind]
  rcases there : s.plan.machine with _ | m
  · exact Op.Transition.refl s
  · exact hosted_onMachine asks there

/-- A plan gets a machine, if it has none, and hands its settings over. -/
theorem hosted_ensureMachine : Op.Moves Plan.ensureMachine (Hosted permits) := by
  intro s
  unfold Plan.ensureMachine
  rw [Op.get_bind]
  rcases there : s.plan.machine with _ | m
  case some => exact Op.Transition.refl s
  intro w held requested seated
  have settings : Op.Moves (do
      Machine.setProfiler s.plan.profiler
      Machine.setSchedule s.plan.schedule) Session.Asks :=
    Op.moves_bind (Session.asks_command (.setProfiler s.plan.profiler) trivial) fun _ =>
      Session.asks_command (.setSchedule s.plan.schedule) trivial
  dsimp only
  rw [Op.bind_run]
  rcases found : s.registry.device s.plan.device with e | d
  · have refused : Plan.buildMachine s = ⟨.error e, s, []⟩ := by
      unfold Plan.buildMachine
      rw [found]
    rw [refused]
    exact ⟨w, held, requested, seated, spares_refl held w⟩
  have here : w.devices[s.plan.device]? = some d := seated.devices ▸ device_ok_iff.1 found
  have next := Workspace.Requested.step requested
    (.build w s.plan.device s.plan.program s.plan.config)
  unfold Workspace.build at next
  simp only [here, seated.context] at next
  unfold Plan.buildMachine
  simp only [found]
  rcases built : Machine.create s.plan.program s.plan.config (s.context, d) with ⟨e | m, ⟨context, d'⟩, log⟩ <;>
    simp only [built] at next ⊢
  · refine ⟨_, none, next, ⟨rfl, ?_, nofun, ?_⟩, fun k entry _ before => ⟨nofun, ?_⟩⟩
    · show w.devices.set _ _ = _
      rw [seated.devices]
    · intro m there'
      rw [there] at there'
      cases there'
    · rw [List.getElem?_append_left (List.getElem?_eq_some_iff.1 before).1]
      exact before
  · obtain ⟨w', requested', seated', spares⟩ := hosted_requests (k := w.seats.length) (m := m)
      (s := { s with context, registry.devices := s.registry.devices.set s.plan.device d' }) settings next
      ⟨rfl, by rw [seated.devices], fun k same => by
        cases same
        simp, fun m' there' => by rw [there] at there'; cases there'⟩
      (by simp)
    refine ⟨w', _, requested', seated', fun k entry other before => ?_⟩
    have within := (List.getElem?_eq_some_iff.1 before).1
    refine spares k entry (fun same => ?_) ?_
    · cases same
      exact Nat.lt_irrefl _ within
    · rw [List.getElem?_append_left within]
      exact before

private theorem hosted_machineWork {op : MachineOp α} (asks : Op.Moves op Session.Asks) :
    Op.Moves (Plan.machineWork op) (Hosted permits) := by
  refine Op.moves_bind hosted_ensureMachine fun _ s => ?_
  rw [Op.get_bind]
  rcases there : s.plan.machine with _ | m
  · exact Op.Transition.refl s
  · exact hosted_onMachine asks there

/-- The device of the plan is reset. -/
theorem hosted_reset (resets : permits .reset) : Op.Moves (Plan.onDevice Device.reset) (Hosted permits) := by
  intro s w held requested seated
  unfold Plan.onDevice
  rcases found : s.registry.device s.plan.device with e | d
  · exact ⟨w, held, requested, seated, spares_refl held w⟩
  have here : w.devices[s.plan.device]? = some d := seated.devices ▸ device_ok_iff.1 found
  have next := Workspace.Requested.step requested (.device w s.plan.device .reset resets)
  rw [Workspace.onDevice_present here] at next
  refine ⟨_, held, next, ⟨seated.context, ?_, seated.inRange, seated.machine⟩, spares_refl held w⟩
  show w.devices.set _ _ = s.registry.devices.set _ _
  rw [seated.devices]
  rfl

/-! ### Options and commands -/

private theorem hosted_apply (option : PlanOption) : Op.Moves (Plan.apply option) (Hosted permits) := by
  refine Op.moves_bind Op.moves_get fun s => Op.moves_bind (Op.moves_emit _) fun _ => ?_
  refine Op.moves_bind (hosted_modifyPlan fun _ _ there => ⟨there, rfl⟩) fun _ => hosted_ifMachine () ?_
  refine Op.moves_bind (Session.asks_command (.setConfig s.plan.config) trivial) fun _ => ?_
  refine Op.moves_bind (Session.asks_command (.setProfiler s.plan.profiler) trivial) fun _ => ?_
  exact Session.asks_command (.setSchedule s.plan.schedule) trivial

private theorem hosted_withDevice (index : Nat) : Op.Moves (Plan.withDevice index) (Hosted permits) := by
  refine Op.moves_bind Op.moves_get fun s => Op.moves_bind (Op.moves_ofExcept _) fun _ => ?_
  refine Op.moves_ite (hosted_apply _) ?_
  refine Op.moves_bind (hosted_ifMachine 0 Session.asks_freeDeviceMemory) fun _ => ?_
  exact Op.moves_bind (hosted_modifyPlan fun _ _ there => nomatch there) fun _ => hosted_apply _

private theorem hosted_option (option : PlanOption) : Op.Moves option.run (Hosted permits) := by
  -- Most options change a setting of the plan and hand it over.
  have setting {change : Plan → Plan} (option : PlanOption)
      (same : ∀ p m, (change p).machine = some m → p.machine = some m ∧ (change p).device = p.device) :
      Op.Moves (do Plan.modifyPlan change; Plan.apply option) (Hosted permits) :=
    Op.moves_bind (hosted_modifyPlan same) fun _ => hosted_apply option
  cases option with
  | device index => exact hosted_withDevice index
  | memoryLimit limit =>
    refine Op.moves_bind (Op.moves_ofExcept _) fun bytes => ?_
    refine Op.moves_bind (hosted_modifyPlan fun _ _ there => ⟨there, rfl⟩) fun _ => ?_
    exact Op.moves_bind (hosted_setLimit _) fun _ => hosted_apply _
  | noMemoryLimit =>
    refine Op.moves_bind (hosted_modifyPlan fun _ _ there => ⟨there, rfl⟩) fun _ => ?_
    exact Op.moves_bind (hosted_setLimit _) fun _ => hosted_apply _
  | _ => exact setting _ fun _ _ there => ⟨there, rfl⟩

private theorem hosted_command (resets : permits .reset) (command : PlanCommand) :
    Op.Moves command.run (Hosted permits) := by
  cases command with
  | execute =>
    refine Op.moves_map (Op.moves_bind Op.moves_get fun s => hosted_machineWork ?_)
    refine Op.moves_bind Op.moves_get fun t => Op.moves_ite ?_ (Session.asks_execute _)
    exact Op.moves_bind (Session.asks_command .warmup trivial) fun _ => Session.asks_execute _
  | warmup => exact hosted_machineWork (Session.asks_command .warmup trivial)
  | resetDevice =>
    refine Op.moves_bind (hosted_reset resets) fun _ s => ?_
    rw [Op.get_bind]
    rcases there : s.plan.machine with _ | m
    · exact Op.Transition.refl s
    · exact Op.related_bind (hosted_onMachine Session.asks_forgetBuffers there) fun _ => Op.moves_emit _ _
  | freeDeviceMemory => exact Op.moves_map (hosted_ifMachine 0 Session.asks_freeDeviceMemory)

end PlanSession

/-! ### Many plans -/

namespace Planner

/-- One step of a history: a plan is made or dropped, an option is applied to it, or it is asked for something;
or others use a device or the context. -/
inductive Step (permits : DeviceCommand → Prop) : Planner → Planner → Prop where
  | create (p : Planner) (slot : Nat) (program : Bytes) (config : Config) :
      Step permits p (create slot program config p).state
  | drop (p : Planner) (slot : Nat) : Step permits p (p.setSlot slot none)
  | option (p : Planner) (slot : Nat) (option : PlanOption) :
      Step permits p (applyOption slot option.run p).state
  | command (p : Planner) (slot : Nat) (command : PlanCommand) :
      Step permits p (onPlan slot command.run p).state
  | device (p : Planner) (index : Nat) (command : DeviceCommand) (permitted : permits command) :
      Step permits p { p with registry.devices :=
        p.registry.devices.modify index fun d => (command.run d).state }
  | setDefault (p : Planner) (index : Nat) : Step permits p { p with registry.defaultIndex := index }
  | setLimit (p : Planner) (limit : Option Nat) :
      Step permits p { p with context.memory := p.context.memory.setLimit limit }
  | setObject (p : Planner) (index : Nat) (object : HostObject) :
      Step permits p { p with context := p.context.setObject index object }

/-- What can come about from new devices and a context that nothing is charged to. -/
inductive Reachable (permits : DeviceCommand → Prop) : Planner → Prop where
  | start (context : Context) (devices : List (DeviceInfo × Bool)) (defaultIndex : Nat)
      (unused : context.memory.usage = 0) :
      Reachable permits
        { context
          registry := { devices := devices.map fun d => Device.create d.1 d.2, defaultIndex } }
  | step {before after : Planner} (reachable : Reachable permits before) (step : Step permits before after) :
      Reachable permits after

variable {permits : DeviceCommand → Prop} {w : Workspace} {seats : Nat → Option Nat} {p : Planner} {slot : Nat}

/-- What a plan works on. -/
def session (p : Planner) (plan : Plan) : PlanSession :=
  ⟨p.context, p.registry, plan⟩

theorem plan?_setSlot (p : Planner) (slot other : Nat) (plan : Option Plan) :
    (p.setSlot slot plan).plan? other = if slot = other then plan else p.plan? other := by
  have padded (l : List (Option Plan)) (n : Nat) :
      ((l ++ List.replicate n none)[other]?).bind id = (l[other]?).bind id := by
    rw [List.getElem?_append]
    split
    · rfl
    · next beyond =>
      rw [List.getElem?_eq_none (Nat.not_lt.1 beyond), List.getElem?_replicate]
      split <;> rfl
  show (((p.plans ++ List.replicate (slot + 1 - p.plans.length) none).set slot plan)[other]?).bind id =
    if slot = other then plan else (p.plans[other]?).bind id
  rw [List.getElem?_set]
  by_cases same : slot = other
  · rw [if_pos same, if_pos same, if_pos (by simp only [List.length_append, List.length_replicate]; omega)]
    rfl
  · rw [if_neg same, if_neg same, padded]

/-- Every plan works in the workspace, and each machine has a seat of its own. -/
structure Housed (w : Workspace) (seats : Nat → Option Nat) (p : Planner) : Prop where
  context : w.context = p.context
  devices : w.devices = p.registry.devices
  inRange : ∀ slot k, seats slot = some k → k < w.seats.length
  apart : ∀ slot other k, slot ≠ other → seats slot = some k → seats other ≠ some k
  machine : ∀ slot plan m, p.plan? slot = some plan → plan.machine = some m →
    ∃ k, seats slot = some k ∧ w.seats[k]? = some (some ⟨plan.device, m⟩)

theorem Housed.seated (housed : Housed w seats p) {plan : Plan} (there : p.plan? slot = some plan) :
    PlanSession.Seated w (seats slot) (p.session plan) :=
  ⟨housed.context, housed.devices, housed.inRange slot, fun m => housed.machine slot plan m there⟩

/-- A slot is given up, or to a plan without a machine. -/
theorem Housed.setSlot (housed : Housed w seats p) (slot : Nat) {plan : Option Plan}
    (idle : ∀ new, plan = some new → new.machine = none) : Housed w seats (p.setSlot slot plan) := by
  refine ⟨housed.context, housed.devices, housed.inRange, housed.apart, fun other plan' m there => ?_⟩
  rw [plan?_setSlot] at there
  split at there
  · intro made
    rw [idle plan' there] at made
    cases made
  · exact housed.machine other plan' m there

private theorem Housed.dropped (housed : Housed w seats p) (slot : Nat) : Housed w seats (p.setSlot slot none) :=
  housed.setSlot slot fun _ absent => nomatch absent

/-- What a plan is asked for moves its own machine. -/
theorem Housed.hosted (housed : Housed w seats p) (requested : w.Requested permits) {plan : Plan}
    (there : p.plan? slot = some plan) {t : PlanSession} (hosted : PlanSession.Hosted permits (p.session plan) t) :
    ∃ (w' : Workspace) (seats' : Nat → Option Nat), w'.Requested permits ∧
      Housed w' seats' (({ p with context := t.context, registry := t.registry } : Planner).setSlot slot t.plan) := by
  obtain ⟨w', held', requested', seated, spares⟩ := hosted w (seats slot) requested (housed.seated there)
  -- The seats of other plans are spared, and are not the one that is held then.
  have others {other k : Nat} (different : slot ≠ other) (holds : seats other = some k) :
      held' ≠ some k ∧ ∃ entry, w.seats[k]? = some entry ∧ w'.seats[k]? = some entry := by
    have before := List.getElem?_eq_getElem (housed.inRange other k holds)
    obtain ⟨apart, after⟩ := spares k _ (fun own => housed.apart slot other k different own holds) before
    exact ⟨apart, _, before, after⟩
  refine ⟨w', Function.update seats slot held', requested', seated.context, seated.devices, ?_, ?_, ?_⟩
  · intro other k holds
    by_cases same : other = slot
    · rw [same, Function.update_self] at holds
      exact seated.inRange k holds
    · rw [Function.update_of_ne same] at holds
      obtain ⟨_, entry, _, after⟩ := others (Ne.symm same) holds
      exact (List.getElem?_eq_some_iff.1 after).1
  · intro one other k different holds holds'
    by_cases first : one = slot
    · rw [first, Function.update_self] at holds
      rw [Function.update_of_ne (first ▸ Ne.symm different)] at holds'
      exact (others (first ▸ different) holds').1 holds
    · rw [Function.update_of_ne first] at holds
      by_cases second : other = slot
      · rw [second, Function.update_self] at holds'
        exact (others (Ne.symm first) holds).1 holds'
      · rw [Function.update_of_ne second] at holds'
        exact housed.apart one other k different holds holds'
  · intro other plan' m there' made
    rw [plan?_setSlot] at there'
    by_cases same : slot = other
    · rw [if_pos same] at there'
      cases there'
      rw [← same, Function.update_self]
      exact seated.machine m made
    · rw [if_neg same] at there'
      rw [Function.update_of_ne (Ne.symm same)]
      obtain ⟨k, holds, found⟩ := housed.machine other plan' m there' made
      obtain ⟨_, entry, before, after⟩ := others same holds
      rw [found] at before
      cases before
      exact ⟨k, holds, after⟩

private theorem onPlan_absent {α : Type} {op : PlanOp α} (absent : p.plan? slot = none) :
    (onPlan slot op p).state = p := by
  simp only [onPlan, absent]

theorem onPlan_present {α : Type} {op : PlanOp α} {plan : Plan} (there : p.plan? slot = some plan) :
    (onPlan slot op p).state =
      ({ p with
          context := (op (p.session plan)).state.context
          registry := (op (p.session plan)).state.registry } : Planner).setSlot slot
        (op (p.session plan)).state.plan := by
  simp only [onPlan, there, session]
  rcases op ⟨p.context, p.registry, plan⟩ with ⟨e | a, t, log⟩ <;> rfl

/-- The machines of plans live in a history of whole requests. -/
theorem housed_of_reachable (reachable : p.Reachable permits) (resets : permits .reset) :
    ∃ (w : Workspace) (seats : Nat → Option Nat), w.Requested permits ∧ Housed w seats p := by
  induction reachable with
  | start context devices defaultIndex unused =>
    refine ⟨_, fun _ => none, .start context devices unused, rfl, rfl, nofun, nofun, fun slot plan m there => ?_⟩
    cases there
  | @step before after _ step housing =>
    obtain ⟨w, seats, requested, housed⟩ := housing
    have asked (slot : Nat) {op : PlanOp Unit} (hosted : Op.Moves op (PlanSession.Hosted permits)) :
        ∃ (w' : Workspace) (seats' : Nat → Option Nat), w'.Requested permits ∧
          Housed w' seats' (onPlan slot op before).state := by
      rcases there : before.plan? slot with _ | plan
      · rw [onPlan_absent there]
        exact ⟨w, seats, requested, housed⟩
      · rw [onPlan_present there]
        exact housed.hosted requested there (hosted _)
    cases step with
    | create slot program config =>
      have idle : ∀ new, some (Plan.create before.registry program config) = some new →
          new.machine = none := by
        rintro _ ⟨⟩
        rfl
      exact ⟨w, seats, requested, housed.setSlot slot idle⟩
    | drop slot => exact ⟨w, seats, requested, housed.dropped slot⟩
    | option slot option =>
      obtain ⟨w', seats', requested', housed'⟩ := asked slot (PlanSession.hosted_option option)
      refine ⟨w', seats', requested', ?_⟩
      unfold applyOption
      rcases ran : onPlan slot option.run before with ⟨e | a, p, log⟩ <;> rw [ran] at housed'
      · exact housed'.dropped slot
      · exact housed'
    | command slot command => exact asked slot (PlanSession.hosted_command resets command)
    | device index command permitted =>
      refine ⟨_, seats, requested.step (.device w index command permitted), ?_⟩
      rcases found : w.devices[index]? with _ | d
      · rw [Workspace.onDevice_absent found]
        have absent := housed.devices ▸ found
        have same : before.registry.devices.modify index (fun d => (command.run d).state) =
            before.registry.devices := List.modify_eq_self (List.getElem?_eq_none_iff.1 absent)
        exact ⟨housed.context, housed.devices.trans same.symm, housed.inRange, housed.apart, housed.machine⟩
      · rw [Workspace.onDevice_present found]
        refine ⟨housed.context, ?_, housed.inRange, housed.apart, housed.machine⟩
        show w.devices.set index _ = before.registry.devices.modify index _
        rw [← housed.devices, List.modify_eq_set_getElem?, found]
        rfl
    | setDefault index => exact ⟨w, seats, requested, housed.context, housed.devices, housed.inRange,
        housed.apart, housed.machine⟩
    | setLimit limit =>
      have same := congrArg (fun c : Context => { c with memory := c.memory.setLimit limit }) housed.context
      exact ⟨_, seats, requested.step (.setLimit w limit), same, housed.devices, housed.inRange, housed.apart,
        housed.machine⟩
    | setObject index object =>
      have same := congrArg (fun c : Context => c.setObject index object) housed.context
      exact ⟨_, seats, requested.step (.setObject w index object), same, housed.devices, housed.inRange,
        housed.apart, housed.machine⟩

end Planner
end Offload
