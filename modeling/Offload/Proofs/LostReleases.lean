import Offload.Code.Assembly
import Offload.Proofs.PlannedGrids
import Offload.Proofs.PoolLedger

/-! Release of everything, after resets too. A machine gives back all that it has bound and the budget loses
exactly that, unless its device was reset and the machine still counts buffers from before: then the first of
them is refused, nothing is given back, and a plan that was to move to another device is used up. -/
namespace Offload

namespace Bindings

variable {bs : Bindings} {object : Nat} {b : DeviceBuffer}

private theorem mem_bound : (object, b) ∈ bs.bound ↔ bs.buffer? object = some b := by
  unfold bound buffer?
  rw [List.mem_filterMap]
  constructor
  · rintro ⟨⟨binding, index⟩, member, same⟩
    obtain ⟨b', held, same'⟩ := Option.map_eq_some_iff.1 same
    cases same'
    rw [List.mem_zipIdx_iff_getElem?.1 member]
    exact held
  · intro found
    obtain ⟨binding, there, held⟩ := Option.bind_eq_some_iff.1 found
    exact ⟨(binding, object), List.mem_zipIdx_iff_getElem?.2 there, Option.map_eq_some_iff.2 ⟨b, held, rfl⟩⟩

private theorem mem_boundObjects : object ∈ bs.bound.map (·.1) ↔ ∃ b, bs.buffer? object = some b := by
  simp only [List.mem_map, Prod.exists, exists_and_right, exists_eq_right, mem_bound]

private theorem boundBytes_of_unbound (unbound : ∀ object, bs.buffer? object = none) : bs.boundBytes = 0 := by
  rw [← boundBytes_unbindAll bs]
  exact boundBytes_congr (List.length_map _).symm fun object =>
    (unbound object).trans (buffer?_unbindAll bs object).symm

end Bindings

namespace Session
open Machine (usage bufferOf)

variable {s : Session}

/-- The device was reset since the machine last looked, and the machine still counts buffers from before. -/
structure Bereft (s : Session) : Prop where
  reset : s.device.epoch ≠ s.machine.epoch
  counts : ∃ object b, bufferOf s object = some b

/-- Everything is given back, and the budget loses what was bound. -/
def Clears (s : Session) : Prop :=
  ∃ t, Op.Yields Machine.freeDeviceMemory s s.machine.bindings.boundBytes t ∧
    (∀ object, bufferOf t object = none) ∧ usage t + s.machine.bindings.boundBytes = usage s

/-- The device refuses the first buffer, and all stays as it is. -/
def Sticks (s : Session) : Prop :=
  ∃ object b, s.machine.bindings.bound.head? = some (object, b) ∧
    (Machine.freeDeviceMemory s).result = .error (.ofDevice (.invalidBuffer b.id)) ∧
    (Machine.freeDeviceMemory s).state = s

/-- The machine finds its holdings good and on the books, and nothing is there that it has lost. -/
structure Kempt (s : Session) : Prop where
  tidy : s.machine.Tidy s.device
  lapsed : s.machine.Lapsed s.device
  shaped : s.machine.bindings.entries.length = s.context.objects.length
  books : ∃ others, s.Books others

private theorem Kempt.inRange (kempt : s.Kempt) {object : Nat} {b : DeviceBuffer} (bound : bufferOf s object = some b) :
    ∃ entry binding, s.context.object object = .ok entry ∧ s.machine.bindings.get object = .ok binding ∧
      binding.buffer = some b := by
  obtain ⟨binding, there, held⟩ := Option.bind_eq_some_iff.1 bound
  have within := (List.getElem?_eq_some_iff.1 there).1
  rw [kempt.shaped] at within
  refine ⟨s.context.objects[object], binding, ?_, Bindings.get_ok_iff.2 there, held⟩
  rw [Context.object, List.getElem?_eq_getElem within]

/-- What is bound can be released, as long as it is not lost. -/
theorem Kempt.releasable (kempt : s.Kempt) (intact : ¬ s.Bereft) :
    Machine.Releasable s (s.machine.bindings.bound.map (·.1)) where
  inRange o member := by
    obtain ⟨b, bound⟩ := Bindings.mem_boundObjects.1 member
    obtain ⟨entry, binding, found, got, _⟩ := kempt.inRange bound
    exact ⟨entry, binding, found, got⟩
  live o _ b bound := by
    by_cases current : s.device.epoch = s.machine.epoch
    · exact kempt.tidy.live current o b bound
    · exact absurd ⟨current, o, b, bound⟩ intact
  apart o _ o' _ different b b' bound bound' same := different (kempt.tidy.distinct o o' b b' bound bound' same)

private theorem Kempt.clears (kempt : s.Kempt) (intact : ¬ s.Bereft) : s.Clears := by
  obtain ⟨others, books⟩ := kempt.books
  obtain ⟨freed, t, released, cleared⟩ := Machine.deallocAll_released (kempt.releasable intact)
  have ran : Op.Yields Machine.freeDeviceMemory s freed t := released
  obtain ⟨taken, booksAfter⟩ := Machine.freeDeviceMemory_exact books ran
  have unbound (object : Nat) : bufferOf t object = none := by
    by_cases listed : object ∈ s.machine.bindings.bound.map (·.1)
    · exact cleared.listed object listed
    · rw [cleared.others object listed]
      exact Option.eq_none_iff_forall_not_mem.2 fun b bound => listed (Bindings.mem_boundObjects.2 ⟨b, bound⟩)
  have all : freed = s.machine.bindings.boundBytes := by
    have before : usage s = s.machine.bindings.boundBytes + others := books.usage
    have after : usage t = t.machine.bindings.boundBytes + others := booksAfter.usage
    rw [Bindings.boundBytes_of_unbound unbound] at after
    omega
  exact ⟨t, all ▸ ran, unbound, all ▸ taken⟩

/-- A buffer that is gone is refused. -/
theorem dealloc_gone {object : Nat} {entry : ObjectEntry} {binding : Binding} {b : DeviceBuffer}
    (inRange : s.context.object object = .ok entry) (found : s.machine.bindings.get object = .ok binding)
    (held : binding.buffer = some b) (gone : s.device.memory.buffers.get? b.id = none) :
    (Machine.dealloc object s).result = .error (.ofDevice (.invalidBuffer b.id)) := by
  have refused : s.device.memory.free b.id = .error (.invalidBuffer b.id) := by
    rw [Memory.free, gone]
  have failed : (Session.onDevice (Device.deallocate b) s).result = .error (.ofDevice (.invalidBuffer b.id)) := by
    simp only [onDevice, Op.onPart, Op.mapError, Device.deallocate, Device.onMemory, Op.bind_run, Op.step, refused,
      Except.map]
  unfold Machine.dealloc
  rw [Op.get_bind, inRange, (Op.bind_of_yields ⟨rfl, rfl⟩).1, found, (Op.bind_of_yields ⟨rfl, rfl⟩).1]
  simp only [held]
  exact (Op.bind_of_failed failed).1

private theorem Kempt.sticks (kempt : s.Kempt) (bereft : s.Bereft) : s.Sticks := by
  obtain ⟨object, b, bound⟩ := bereft.counts
  have listed := Bindings.mem_bound.2 bound
  rcases all : s.machine.bindings.bound with _ | ⟨⟨first, b⟩, rest⟩
  · rw [all] at listed
    cases listed
  have bound : bufferOf s first = some b := Bindings.mem_bound.1 (all ▸ List.mem_cons_self)
  obtain ⟨entry, binding, inRange, found, held⟩ := kempt.inRange bound
  have failed := dealloc_gone inRange found held (kempt.lapsed bereft.reset b.id ⟨first, b, bound, rfl⟩)
  have began : Machine.freeDeviceMemory s = (Machine.dealloc first >>= fun freed =>
      Machine.deallocAll (rest.map (·.1)) >>= fun others => pure (freed + others)) s := by
    show Machine.deallocAll (s.machine.bindings.bound.map (·.1)) s = _
    rw [all]
    rfl
  rw [Sticks, began]
  refine ⟨first, b, by rw [all]; rfl, (Op.bind_of_failed failed).1, ?_⟩
  rw [(Op.bind_of_failed failed).2]
  exact Machine.refuses_dealloc first s _ failed

end Session

/-! ### Plans -/

/-- The bytes that the machine of a plan has bound. -/
def Plan.boundBytes (plan : Plan) : Nat :=
  (plan.machine.map fun m => m.bindings.boundBytes).getD 0

namespace PlanSession

variable {s t : PlanSession} {m : Machine} {d : Device} {α : Type}

theorem ifMachine_absent (absent : α) (op : MachineOp α) (idle : s.plan.machine = none) :
    Op.Yields (Plan.ifMachine absent op) s absent s := by
  unfold Plan.ifMachine
  rw [Op.Yields, Op.get_bind, idle]
  constructor <;> rfl

/-- What a plan has its machine do. -/
theorem ifMachine_present (absent : α) (op : MachineOp α) (made : s.plan.machine = some m)
    (found : s.registry.devices[s.plan.device]? = some d) :
    (Plan.ifMachine absent op s).result = (op ⟨s.context, d, m⟩).result ∧
      (Plan.ifMachine absent op s).state = Plan.update s (op ⟨s.context, d, m⟩).state := by
  unfold Plan.ifMachine
  rw [Op.get_bind, made]
  simp only [Plan.onMachine, device_ok_iff.2 found, and_self]

/-- The settings of a plan do not touch what its machine has bound, nor what is charged. -/
theorem apply_yields (option : PlanOption) (registered : s.plan.device < s.registry.devices.length) :
    ∃ t, Op.Yields (Plan.apply option) s () t ∧ t.plan.device = s.plan.device ∧
      t.plan.boundBytes = s.plan.boundBytes ∧ t.context.memory.usage = s.context.memory.usage ∧
      (s.plan.machine = none → t.plan.machine = none) := by
  have found := List.getElem?_eq_getElem registered
  let noted : PlanSession := { s with plan := { s.plan with options := s.plan.options ++ [option] } }
  let settings : MachineOp Unit := do
    Machine.setConfig s.plan.config
    Machine.setProfiler s.plan.profiler
    Machine.setSchedule s.plan.schedule
  have applied (t : PlanSession) (ran : Op.Yields (Plan.ifMachine () settings) noted () t) :
      Op.Yields (Plan.apply option) s () t :=
    Op.yields_bind.2 ⟨s, s, ⟨rfl, rfl⟩, Op.yields_bind.2 ⟨(), s, ⟨rfl, rfl⟩,
      Op.yields_bind.2 ⟨(), noted, ⟨rfl, rfl⟩, ran⟩⟩⟩
  rcases made : s.plan.machine with _ | m
  · exact ⟨noted, applied _ (ifMachine_absent () settings made), rfl, rfl, rfl, fun _ => made⟩
  · obtain ⟨t, settled, bindings, charged⟩ :=
      Machine.settings_yield s.plan.config s.plan.profiler s.plan.schedule ⟨s.context, s.registry.devices[s.plan.device], m⟩
    obtain ⟨result, state⟩ := ifMachine_present (s := noted) () settings made found
    refine ⟨Plan.update noted t, applied _ ⟨result.trans settled.1, state.trans (congrArg _ settled.2)⟩, rfl, ?_,
      charged, fun absent => nomatch absent⟩
    simp only [Plan.boundBytes, Plan.update, made, Option.map_some, Option.getD_some, bindings]

section WithDevice

variable {index : Nat} (registered : index < s.registry.devices.length)
include registered

private theorem device_found : Op.Yields (Op.ofExcept (s.registry.device index)) s s.registry.devices[index] s := by
  rw [device_ok_iff.2 (List.getElem?_eq_getElem registered)]
  exact ⟨rfl, rfl⟩

/-- To move to where it is, a plan only notes the option. -/
theorem withDevice_same (same : index = s.plan.device) (applied : Op.Yields (Plan.apply (.device index)) s () t) :
    Op.Yields (Plan.withDevice index) s () t := by
  refine Op.yields_bind.2 ⟨s, s, ⟨rfl, rfl⟩, Op.yields_bind.2 ⟨_, s, device_found registered, ?_⟩⟩
  rw [if_pos same]
  exact applied

/-- A plan that has given everything back has no machine any more, and gets one where it has moved to. -/
theorem withDevice_moves {freed : Nat} {u : PlanSession} (other : index ≠ s.plan.device)
    (released : Op.Yields Plan.freeDeviceMemory s freed t)
    (applied : Op.Yields (Plan.apply (.device index))
      { t with plan := { t.plan with machine := none, device := index } } () u) :
    Op.Yields (Plan.withDevice index) s () u := by
  refine Op.yields_bind.2 ⟨s, s, ⟨rfl, rfl⟩, Op.yields_bind.2 ⟨_, s, device_found registered, ?_⟩⟩
  rw [if_neg other]
  exact Op.yields_bind.2 ⟨freed, t, released, Op.yields_bind.2 ⟨(), _, ⟨rfl, rfl⟩, applied⟩⟩

private theorem withDevice_failed {e : MachineError} (other : index ≠ s.plan.device)
    (failed : (Plan.freeDeviceMemory s).result = .error e) :
    (Plan.withDevice index s).result = .error e ∧
      (Plan.withDevice index s).state = (Plan.freeDeviceMemory s).state := by
  unfold Plan.withDevice
  rw [Op.get_bind, (Op.bind_of_yields (device_found registered)).1, (Op.bind_of_yields (device_found registered)).2,
    if_neg other]
  exact Op.bind_of_failed failed

end WithDevice

end PlanSession

namespace Pool

variable {permits : DeviceCommand → Prop} {p : Pool} {index : Nat} {tenant : Tenant} {s : Session}

private theorem kempt_of_reachable (reachable : p.Reachable permits)
    (spares : ∀ command, permits command → command.Spares)
    (present : p.session? index = some (tenant, s)) : s.Kempt := by
  have orderly := orderly_of_reachable reachable spares
  have accounted := accounted_of_reachable reachable spares
  obtain ⟨seated, inContexts, inDevices, same⟩ := session?_eq_some.1 present
  obtain ⟨⟨c, found, length⟩, d, here, lapsed⟩ := accounted.seats index tenant seated
  cases inContexts.symm.trans found
  cases inDevices.symm.trans here
  obtain ⟨others, books, _⟩ := accounted.books orderly present
  have tidy := orderly.tidy index tenant seated s.device inDevices
  rw [same] at tidy lapsed length
  exact ⟨tidy, lapsed, length, others, books⟩

end Pool

namespace Planner

variable {permits : DeviceCommand → Prop} {p : Planner} {slot : Nat} {plan : Plan} {t : PlanSession} {m : Machine}

/-- The plan has a machine that counts buffers from before a reset. -/
def Bereft (p : Planner) (plan : Plan) : Prop :=
  ∃ s, (p.session plan).working? = some s ∧ s.Bereft

/-- To the device that it is on, the plan can be moved at no cost. -/
def Stays (p : Planner) (slot : Nat) (plan : Plan) : Prop :=
  plan.device < p.registry.devices.length →
    ∃ q kept, Op.Yields (applyOption slot (PlanOption.device plan.device).run) p (some ()) q ∧
      q.plan? slot = some kept ∧ kept.device = plan.device ∧ kept.boundBytes = plan.boundBytes ∧
      q.context.memory.usage = p.context.memory.usage

/-- The plan gives everything back, and moves to any other device. The budget loses what was bound. -/
structure Clears (p : Planner) (slot : Nat) (plan : Plan) : Prop where
  release : ∃ t, Op.Yields Plan.freeDeviceMemory (p.session plan) plan.boundBytes t ∧
    (∀ m, t.plan.machine = some m → ∀ object, m.bindings.buffer? object = none) ∧
    t.context.memory.usage + plan.boundBytes = p.context.memory.usage
  move : ∀ index < p.registry.devices.length, index ≠ plan.device →
    ∃ q moved, Op.Yields (applyOption slot (PlanOption.device index).run) p (some ()) q ∧
      q.plan? slot = some moved ∧ moved.device = index ∧ moved.machine = none ∧
      q.context.memory.usage + plan.boundBytes = p.context.memory.usage

/-- The plan gives nothing back; asked to move to another device it is used up, and what was bound stays
charged. -/
structure Strands (p : Planner) (slot : Nat) (plan : Plan) : Prop where
  release : ∃ id, (Plan.freeDeviceMemory (p.session plan)).result = .error (.ofDevice (.invalidBuffer id)) ∧
    (Plan.freeDeviceMemory (p.session plan)).state.plan.machine = plan.machine ∧
    (Plan.freeDeviceMemory (p.session plan)).state.context = p.context
  move : ∀ index < p.registry.devices.length, index ≠ plan.device →
    ∃ id, (applyOption slot (PlanOption.device index).run p).result = .error (.ofDevice (.invalidBuffer id)) ∧
      (applyOption slot (PlanOption.device index).run p).state.plan? slot = none ∧
      (applyOption slot (PlanOption.device index).run p).state.context = p.context

private theorem kempt_of_reachable (reachable : p.Reachable permits) (resets : permits .reset)
    (spares : ∀ command, permits command → command.Spares) (there : p.plan? slot = some plan)
    (made : plan.machine = some m) :
    ∃ d, p.registry.devices[plan.device]? = some d ∧ Session.Kempt ⟨p.context, d, m⟩ := by
  obtain ⟨w, seats, requested, housed⟩ := housed_of_reachable reachable resets
  obtain ⟨k, _, seated⟩ := housed.machine slot plan m there made
  obtain ⟨_, d, here, _⟩ :=
    (Pool.accounted_of_reachable requested.pool spares).seats _ _ (Workspace.pool_tenant seated)
  have present : w.session? k = some (plan.device, ⟨w.context, d, m⟩) :=
    Workspace.session?_eq_some.2 ⟨m, d, seated, here, rfl⟩
  exact ⟨d, housed.devices ▸ here,
    housed.context ▸ Pool.kempt_of_reachable requested.pool spares (Workspace.pool_session? present)⟩

/-! ### Options of plans -/

theorem applyOption_yields (op : PlanOp Unit) (there : p.plan? slot = some plan)
    (ran : Op.Yields op (p.session plan) () t) :
    Op.Yields (applyOption slot op) p (some ())
      (({ p with context := t.context, registry := t.registry } : Planner).setSlot slot (some t.plan)) := by
  obtain ⟨result, rfl⟩ := ran
  simp only [Op.Yields, applyOption, onPlan, there]
  rcases ended : op (p.session plan) with ⟨e | a, t, log⟩ <;> rw [ended] at result
  · cases result
  · simp only [session] at ended
    rw [ended]
    exact ⟨rfl, rfl⟩

/-- An option that cannot be applied uses the plan up. -/
theorem applyOption_failed (op : PlanOp Unit) {e : MachineError} (there : p.plan? slot = some plan)
    (failed : (op (p.session plan)).result = .error e) :
    (applyOption slot op p).result = .error e ∧ (applyOption slot op p).state.plan? slot = none ∧
      (applyOption slot op p).state.context = (op (p.session plan)).state.context := by
  simp only [applyOption, onPlan, there]
  rcases ended : op (p.session plan) with ⟨e' | a, t, log⟩ <;> rw [ended] at failed
  · cases failed
    simp only [session] at ended
    rw [ended]
    refine ⟨rfl, ?_, rfl⟩
    rw [plan?_setSlot, if_pos rfl]
  · cases failed

private theorem stays (there : p.plan? slot = some plan) : p.Stays slot plan := by
  intro registered
  obtain ⟨t, applied, device, bytes, charged, _⟩ :=
    PlanSession.apply_yields (s := p.session plan) (.device plan.device) registered
  have ran : Op.Yields (PlanOption.device plan.device).run (p.session plan) () t :=
    PlanSession.withDevice_same registered rfl applied
  have moved := applyOption_yields (PlanOption.device plan.device).run there ran
  refine ⟨_, t.plan, moved, ?_, device, bytes, charged⟩
  exact (plan?_setSlot _ slot slot _).trans (if_pos rfl)

/-- A plan that has not lost anything gives everything back. -/
theorem released (good : ∀ m, plan.machine = some m → ∃ d, p.registry.devices[plan.device]? = some d ∧
      Session.Clears ⟨p.context, d, m⟩) :
    ∃ t, Op.Yields Plan.freeDeviceMemory (p.session plan) plan.boundBytes t ∧
      (∀ m, t.plan.machine = some m → ∀ object, m.bindings.buffer? object = none) ∧
      t.context.memory.usage + plan.boundBytes = p.context.memory.usage ∧
      t.registry.devices.length = p.registry.devices.length := by
  rcases made : plan.machine with _ | m
  · have nothing : plan.boundBytes = 0 := by rw [Plan.boundBytes, made]; rfl
    rw [nothing]
    refine ⟨p.session plan, PlanSession.ifMachine_absent 0 Machine.freeDeviceMemory made, ?_, rfl, rfl⟩
    intro m made'
    cases made.symm.trans made'
  · have bytes : plan.boundBytes = m.bindings.boundBytes := by rw [Plan.boundBytes, made]; rfl
    obtain ⟨d, found, t, ran, unbound, charged⟩ := good m made
    obtain ⟨result, state⟩ :=
      PlanSession.ifMachine_present (s := p.session plan) 0 Machine.freeDeviceMemory made found
    rw [bytes]
    refine ⟨Plan.update (p.session plan) t, ⟨result.trans ran.1, state.trans (congrArg _ ran.2)⟩, ?_, charged,
      List.length_set⟩
    rintro _ ⟨⟩
    exact unbound

private theorem clears (there : p.plan? slot = some plan)
    (good : ∀ m, plan.machine = some m → ∃ d, p.registry.devices[plan.device]? = some d ∧
      Session.Clears ⟨p.context, d, m⟩) : p.Clears slot plan := by
  obtain ⟨t, ran, unbound, charged, length⟩ := released good
  refine ⟨⟨t, ran, unbound, charged⟩, fun index registered other => ?_⟩
  obtain ⟨u, applied, device, _, kept, idle⟩ := PlanSession.apply_yields
    (s := { t with plan := { t.plan with machine := none, device := index } }) (.device index) (length ▸ registered)
  have moved := PlanSession.withDevice_moves registered other ran applied
  refine ⟨_, u.plan, applyOption_yields (PlanOption.device index).run there moved, ?_, device, idle rfl, ?_⟩
  · rw [plan?_setSlot, if_pos rfl]
  · show u.context.memory.usage + plan.boundBytes = p.context.memory.usage
    rw [kept]
    exact charged

private theorem strands {d : Device} (there : p.plan? slot = some plan) (made : plan.machine = some m)
    (found : p.registry.devices[plan.device]? = some d) (sticks : Session.Sticks ⟨p.context, d, m⟩) :
    p.Strands slot plan := by
  obtain ⟨object, b, _, failed, same⟩ := sticks
  obtain ⟨result, state⟩ :=
    PlanSession.ifMachine_present (s := p.session plan) 0 Machine.freeDeviceMemory made found
  have refused : (Plan.freeDeviceMemory (p.session plan)).result = .error (.ofDevice (.invalidBuffer b.id)) :=
    result.trans failed
  have left : (Plan.freeDeviceMemory (p.session plan)).state = Plan.update (p.session plan) ⟨p.context, d, m⟩ :=
    state.trans (congrArg _ same)
  refine ⟨⟨b.id, refused, left ▸ made.symm, left ▸ rfl⟩, fun index registered other => ⟨b.id, ?_⟩⟩
  obtain ⟨ended, after⟩ := PlanSession.withDevice_failed registered other refused
  obtain ⟨ended', emptied, context⟩ := applyOption_failed (PlanOption.device index).run there ended
  refine ⟨ended', emptied, context.trans ?_⟩
  show (Plan.withDevice index (p.session plan)).state.context = p.context
  rw [after, left]
  rfl

end Planner

namespace Machine

/-- A machine gives back all that it has bound, and the budget loses exactly that, unless its device was reset
and the machine still counts buffers from before: then the first of them is refused and nothing is given
back. So it is for every machine of a pool, and for every plan; and a plan can be moved to any device
that is registered, unless it is refused in the same way, and is lost with what is charged for it. -/
theorem cleared_unless_bereft {permits : DeviceCommand → Prop} (resets : permits .reset)
    (spares : ∀ command, permits command → command.Spares) :
    (∀ (p : Pool) (index : Nat) (tenant : Tenant) (s : Session), p.Reachable permits →
        p.session? index = some (tenant, s) → (¬ s.Bereft → s.Clears) ∧ (s.Bereft → s.Sticks)) ∧
      ∀ (p : Planner) (slot : Nat) (plan : Plan), p.Reachable permits → p.plan? slot = some plan →
        p.Stays slot plan ∧ (¬ p.Bereft plan → p.Clears slot plan) ∧ (p.Bereft plan → p.Strands slot plan) := by
  refine ⟨fun p index tenant s reachable present => ?_, fun p slot plan reachable there => ?_⟩
  · have kempt := Pool.kempt_of_reachable reachable spares present
    exact ⟨kempt.clears, kempt.sticks⟩
  have kempt (m : Machine) (made : plan.machine = some m) :=
    Planner.kempt_of_reachable reachable resets spares there made
  have working {m : Machine} {d : Device} (made : plan.machine = some m)
      (found : p.registry.devices[plan.device]? = some d) :
      (p.session plan).working? = some ⟨p.context, d, m⟩ := by
    simp only [PlanSession.working?, Planner.session, made, found, bind, Option.bind]
  refine ⟨Planner.stays there, fun intact => Planner.clears there fun m made => ?_, ?_⟩
  · obtain ⟨d, found, good⟩ := kempt m made
    exact ⟨d, found, good.clears fun bereft => intact ⟨_, working made found, bereft⟩⟩
  · rintro ⟨s, works, bereft⟩
    obtain ⟨m, made, _⟩ := Option.bind_eq_some_iff.1 works
    obtain ⟨d, found, good⟩ := kempt m made
    cases (working made found).symm.trans works
    exact Planner.strands there made found (good.sticks bereft)

end Machine

/-- A program that gives 16 bytes to its one object. -/
def takingProgram : Bytes :=
  Assembly.bytes { instructions := [.context 0, .beginPass, .alloc 0 [0], .endPass] }

def takingContext : Context :=
  { name := "taking", objects := [{ object := .array (.zeroed .i32 4) }] }

namespace Pool

/-- A tenant whose device was reset by someone else after it had taken its buffer. -/
def bereft : Pool :=
  let start : Pool := { contexts := [takingContext], devices := [({}, false)].map fun d => Device.create d.1 d.2 }
  let built := start.build 0 0 takingProgram { useDependencies := false }
  let taken := (onTenant 0 (MachineCommand.execute .run).run built).state
  taken.onDevice 0 .reset

private theorem bereft_reachable : bereft.Reachable DeviceCommand.Spares := by
  refine .step ?_ (.device _ 0 .reset trivial)
  refine .step ?_ (.request _ 0 (.execute .run) trivial)
  refine .step ?_ (.build _ 0 0 _ _)
  exact .start _ _ fun c member => by rw [List.mem_singleton.1 member]; rfl

end Pool

namespace Planner

/-- Two plans on one device, of which the first has taken its buffer, and another device. -/
def sharing : Planner :=
  let start : Planner :=
    { context := takingContext
      registry := { devices := [({}, false), ({ index := 1 }, false)].map fun d => Device.create d.1 d.2 } }
  let first := (create 0 takingProgram { useDependencies := false } start).state
  let second := (create 1 takingProgram { useDependencies := false } first).state
  (onPlan 0 PlanCommand.execute.run second).state

private theorem sharing_reachable : sharing.Reachable DeviceCommand.Spares := by
  refine .step ?_ (.command _ 0 .execute)
  refine .step ?_ (.create _ 1 _ _)
  refine .step ?_ (.create _ 0 _ _)
  exact .start _ _ _ rfl

/-- The second plan has reset the device. -/
def deprived : Planner :=
  (onPlan 1 PlanCommand.resetDevice.run sharing).state

private theorem deprived_reachable : deprived.Reachable DeviceCommand.Spares :=
  .step sharing_reachable (.command _ 1 .resetDevice)

/-- The tenant gets nothing back, and the plan gets back everything as long as nobody resets its device. -/
theorem released_before_reset : (∃ tenant s, Pool.bereft.session? 0 = some (tenant, s) ∧ s.Sticks) ∧
    ∃ plan, sharing.plan? 0 = some plan ∧ plan.boundBytes = 16 ∧ sharing.Clears 0 plan := by
  obtain ⟨machines, plans⟩ := @Machine.cleared_unless_bereft DeviceCommand.Spares trivial fun _ => id
  constructor
  · have reset : (Pool.bereft.session? 0).any (fun seated => seated.2.device.epoch ≠ seated.2.machine.epoch ∧
        (seated.2.machine.bindings.buffer? 0).isSome) = true := by
      decide +kernel
    obtain ⟨⟨tenant, s⟩, present, lost⟩ := (Option.any_eq_true _ _).1 reset
    obtain ⟨stale, counted⟩ := of_decide_eq_true lost
    obtain ⟨b, bound⟩ := Option.isSome_iff_exists.1 counted
    exact ⟨tenant, s, present, (machines _ 0 tenant s Pool.bereft_reachable present).2 ⟨stale, 0, b, bound⟩⟩
  · have current : (sharing.plan? 0).any (fun plan => plan.boundBytes = 16 ∧
        (sharing.session plan).working?.all (fun s => s.device.epoch = s.machine.epoch)) = true := by
      decide +kernel
    obtain ⟨plan, there, good⟩ := (Option.any_eq_true _ _).1 current
    obtain ⟨bytes, known⟩ := of_decide_eq_true good
    refine ⟨plan, there, bytes, (plans _ 0 plan sharing_reachable there).2.1 ?_⟩
    rintro ⟨s, works, lost⟩
    rw [works] at known
    exact lost.reset (of_decide_eq_true known)

/-- So a release does not always go through. The plan that does not know of the reset gets an error, and another
one when it is to move to the other device; after that it is gone, and its bytes are charged for good. -/
theorem not_always_released : ∃ plan : Plan, deprived.Reachable DeviceCommand.Spares ∧
    deprived.plan? 0 = some plan ∧ plan.boundBytes = 16 ∧ 1 < deprived.registry.devices.length ∧
    (Plan.freeDeviceMemory (deprived.session plan)).result = .error (.ofDevice (.invalidBuffer 1)) ∧
    (applyOption 0 (PlanOption.device 1).run deprived).result = .error (.ofDevice (.invalidBuffer 1)) ∧
    (applyOption 0 (PlanOption.device 1).run deprived).state.plan? 0 = none ∧
    (applyOption 0 (PlanOption.device 1).run deprived).state.context.memory.usage = 16 := by
  have ran : (deprived.plan? 0).any (fun plan => plan.boundBytes = 16 ∧ 1 < deprived.registry.devices.length ∧
      Op.failure? Plan.freeDeviceMemory (deprived.session plan) = some (.ofDevice (.invalidBuffer 1)) ∧
      Op.failure? (applyOption 0 (PlanOption.device 1).run) deprived = some (.ofDevice (.invalidBuffer 1)) ∧
      (applyOption 0 (PlanOption.device 1).run deprived).state.plan? 0 = none ∧
      (applyOption 0 (PlanOption.device 1).run deprived).state.context.memory.usage = 16) = true := by
    decide +kernel
  obtain ⟨plan, there, same⟩ := (Option.any_eq_true _ _).1 ran
  obtain ⟨bytes, registered, refused, refused', gone, charged⟩ := of_decide_eq_true same
  exact ⟨plan, deprived_reachable, there, bytes, registered, Op.failed_iff_failure?.2 refused,
    Op.failed_iff_failure?.2 refused', gone, charged⟩

end Planner
end Offload
