import Offload.Proofs.Commands
import Offload.Proofs.LiveRequests
import Offload.Proofs.TameDevices

/-! Machines on contexts of their own that share devices. One request is carried out after the other,
and in between devices are used and reset by anyone. As long as nobody gives back buffers of others,
each machine finds its holdings good, and no two machines on a device hold the same buffer. -/
namespace Offload

/-- A device that is in order, whoever uses it. -/
structure Device.Orderly (d : Device) : Prop where
  sound : d.events.Sound
  slot : ∀ id, d.Slot id → id < d.memory.nextId

/-- A machine, and where its context and its device are. -/
structure Tenant where
  context : Nat
  device : Nat
  machine : Machine

structure Pool where
  contexts : List Context := []
  devices : List Device := []
  tenants : List Tenant := []

/-- Requests as a whole, rather than parts of one. -/
def MachineCommand.Whole : MachineCommand → Prop
  | execute _ | warmup | freeDeviceMemory | forgetBuffers | setConfig _ | setSchedule _ | setProfiler _
  | clearCode => True
  | _ => False

/-- After a whole request the holdings are as good as before it. -/
theorem MachineCommand.safe {command : MachineCommand} {s : Session} (whole : command.Whole)
    (tidy : s.machine.Tidy s.device) : Session.Safe s (command.run s).state := by
  cases command with
  | execute mode => exact Op.related_bind (Machine.serves_execute tidy mode).state fun _ => Op.Transition.refl _
  | warmup => exact (Machine.serves_warmup tidy).state
  | freeDeviceMemory => exact Op.moves_map Machine.safe_freeDeviceMemory s
  | forgetBuffers => exact Op.moves_map Machine.safe_forgetBuffers s
  | setConfig config => exact Machine.safe_setConfig config s
  | setSchedule schedule => exact Machine.safe_setSchedule schedule s
  | setProfiler profiler => exact Machine.safe_setProfiler profiler s
  | clearCode => exact Machine.safe_clearCode s
  | _ => exact whole.elim

namespace Pool

/-- What a tenant works on. -/
def session? (p : Pool) (index : Nat) : Option (Tenant × Session) := do
  let tenant ← p.tenants[index]?
  let context ← p.contexts[tenant.context]?
  let device ← p.devices[tenant.device]?
  pure (tenant, ⟨context, device, tenant.machine⟩)

/-- Put back what a tenant has worked on. -/
def put (p : Pool) (index : Nat) (tenant : Tenant) (s : Session) : Pool :=
  { contexts := p.contexts.set tenant.context s.context
    devices := p.devices.set tenant.device s.device
    tenants := p.tenants.set index { tenant with machine := s.machine } }

/-- Work of a tenant; none when there is no such tenant. -/
def onTenant {α : Type} (index : Nat) (op : MachineOp α) : Op MachineError Pool (Option α) := fun p =>
  match p.session? index with
  | none => ⟨.ok none, p, []⟩
  | some (tenant, s) =>
    match op s with
    | ⟨.ok a, s, log⟩ => ⟨.ok (some a), p.put index tenant s, log⟩
    | ⟨.error e, s, log⟩ => ⟨.error e, p.put index tenant s, log⟩

/-- Build a machine as one more tenant, unless that fails. -/
def build (p : Pool) (context device : Nat) (program : Bytes) (config : Config) : Pool :=
  match p.contexts[context]?, p.devices[device]? with
  | some c, some d =>
    match Machine.create program config (c, d) with
    | ⟨result, (c, d), _⟩ =>
      { contexts := p.contexts.set context c
        devices := p.devices.set device d
        tenants := p.tenants ++ result.toOption.toList.map fun machine => ⟨context, device, machine⟩ }
  | _, _ => p

/-- Use of a device by whomever. -/
def onDevice (p : Pool) (index : Nat) (command : DeviceCommand) : Pool :=
  { p with devices := p.devices.modify index fun d => (command.run d).state }

/-- One step of a history. -/
inductive Step (permits : DeviceCommand → Prop) : Pool → Pool → Prop where
  | build (p : Pool) (context device : Nat) (program : Bytes) (config : Config) :
      Step permits p (p.build context device program config)
  | request (p : Pool) (index : Nat) (command : MachineCommand) (whole : command.Whole) :
      Step permits p (onTenant index command.run p).state
  | device (p : Pool) (index : Nat) (command : DeviceCommand) (permitted : permits command) :
      Step permits p (p.onDevice index command)
  | setLimit (p : Pool) (context : Nat) (limit : Option Nat) :
      Step permits p { p with contexts := p.contexts.modify context fun c =>
        { c with memory := c.memory.setLimit limit } }
  | setObject (p : Pool) (context index : Nat) (object : HostObject) :
      Step permits p { p with contexts := p.contexts.modify context fun c => c.setObject index object }

/-- What can come about from new devices and from contexts that nothing is charged to. -/
inductive Reachable (permits : DeviceCommand → Prop) : Pool → Prop where
  | start (contexts : List Context) (devices : List (DeviceInfo × Bool))
      (unused : ∀ c ∈ contexts, c.memory.usage = 0) :
      Reachable permits { contexts, devices := devices.map fun d => Device.create d.1 d.2 }
  | step {before after : Pool} (reachable : Reachable permits before) (step : Step permits before after) :
      Reachable permits after

variable {permits : DeviceCommand → Prop} {p : Pool} {index : Nat} {tenant : Tenant} {s t : Session}
  {α : Type}

theorem session?_eq_some : p.session? index = some (tenant, s) ↔
    p.tenants[index]? = some tenant ∧ p.contexts[tenant.context]? = some s.context ∧
      p.devices[tenant.device]? = some s.device ∧ tenant.machine = s.machine := by
  simp only [session?, bind, Option.bind_eq_some_iff, pure, Option.some.injEq, Prod.mk.injEq]
  constructor
  · rintro ⟨tenant, seated, context, found, device, found', rfl, rfl⟩
    exact ⟨seated, found, found', rfl⟩
  · rintro ⟨seated, found, found', same⟩
    exact ⟨tenant, seated, s.context, found, s.device, found', rfl, by rw [same]⟩

theorem onTenant_absent {op : MachineOp α} (absent : p.session? index = none) :
    (onTenant index op p).state = p := by
  simp only [onTenant, absent]

theorem onTenant_present {op : MachineOp α} (present : p.session? index = some (tenant, s)) :
    (onTenant index op p).result = (op s).result.map some ∧
      (onTenant index op p).state = p.put index tenant (op s).state := by
  simp only [onTenant, present]
  rcases op s with ⟨e | a, t, log⟩ <;> exact ⟨rfl, rfl⟩

theorem onDevice_absent {command : DeviceCommand} (absent : p.devices[index]? = none) :
    p.onDevice index command = p := by
  rw [onDevice, List.modify_eq_self (List.getElem?_eq_none_iff.1 absent)]

theorem onDevice_present {command : DeviceCommand} {d : Device} (present : p.devices[index]? = some d) :
    p.onDevice index command = { p with devices := p.devices.set index (command.run d).state } := by
  rw [onDevice, List.modify_eq_set_getElem?, present]
  rfl

/-! ### Holdings -/

/-- Each tenant finds its holdings good, and those on the same device hold different buffers. -/
structure Orderly (p : Pool) : Prop where
  devices : ∀ d ∈ p.devices, d.Orderly
  tidy : ∀ (i : Nat) (tenant : Tenant), p.tenants[i]? = some tenant → ∀ d, p.devices[tenant.device]? = some d →
    tenant.machine.Tidy d
  apart : ∀ (i j : Nat) (a b : Tenant), i ≠ j → p.tenants[i]? = some a → p.tenants[j]? = some b → a.device = b.device →
    ∀ id, a.machine.Binds id → ¬ b.machine.Binds id

/-- What stands at an index after a change. -/
theorem getElem?_set_some {β : Type} {l : List β} {i j : Nat} {a b : β} (found : (l.set i a)[j]? = some b) :
    i = j ∧ a = b ∨ i ≠ j ∧ l[j]? = some b := by
  by_cases same : i = j
  · subst same
    rw [List.getElem?_set] at found
    split at found
    · split at found <;> cases found
      exact .inl ⟨rfl, rfl⟩
    · exact .inr ⟨by assumption, found⟩
  · rw [List.getElem?_set_ne same] at found
    exact .inr ⟨same, found⟩

/-- What stands at an index when there is one more. -/
theorem getElem?_append_some {β : Type} {l : List β} {i : Nat} {a b : β} (found : (l ++ [b])[i]? = some a) :
    l[i]? = some a ∨ a = b := by
  rw [List.getElem?_append] at found
  split at found
  · exact .inl found
  · exact .inr (List.mem_singleton.1 (List.mem_of_getElem? found))

/-- A device may change as long as the machines on it find their holdings. -/
theorem Orderly.setDevice (orderly : p.Orderly) {d : Device} (ordered : d.Orderly)
    (tidy : ∀ (i : Nat) (tenant : Tenant), p.tenants[i]? = some tenant → tenant.device = index →
      tenant.machine.Tidy d) :
    Orderly { p with devices := p.devices.set index d } where
  devices d' member := by
    rcases List.mem_or_eq_of_mem_set member with old | rfl
    · exact orderly.devices d' old
    · exact ordered
  tidy i tenant seated d' found := by
    rcases getElem?_set_some found with ⟨same, rfl⟩ | ⟨_, old⟩
    · exact tidy i tenant seated same.symm
    · exact orderly.tidy i tenant seated d' old
  apart := orderly.apart

/-- The contexts are not looked at. -/
theorem Orderly.contexts (orderly : p.Orderly) (contexts : List Context) :
    Orderly { p with contexts } :=
  ⟨orderly.devices, orderly.tidy, orderly.apart⟩

private theorem orderly_of_tame {d d' : Device} (ordered : d.Orderly) (tame : Device.Tame d d') : d'.Orderly where
  sound := (tame.events ordered.sound).sound
  slot id slot := by
    rcases tame.slot id slot with same | ⟨_, used⟩
    · exact tame.toSpares.old (ordered.slot id same)
    · exact used

private theorem orderly_of_command {d : Device} (ordered : d.Orderly) (command : DeviceCommand)
    (spares : command.Spares) : (command.run d).state.Orderly := by
  have tame (ordinary : command.Ordinary) : (command.run d).state.Orderly :=
    orderly_of_tame ordered (command.tame spares ordinary d)
  cases command with
  | reset => exact ⟨EventTable.sound_clear _, fun id ⟨_, remembered, _⟩ => nomatch remembered⟩
  | registerKernel name kernel => exact ⟨ordered.sound, ordered.slot⟩
  | failCompilationOf name => exact ⟨ordered.sound, ordered.slot⟩
  | _ => exact tame trivial

/-- What a tenant does to its own holdings is no business of the others. -/
theorem Orderly.put (orderly : p.Orderly) (present : p.session? index = some (tenant, s))
    (safe : Session.Safe s t) : (p.put index tenant t).Orderly := by
  obtain ⟨seated, _, found, same⟩ := session?_eq_some.1 present
  have tidy : s.machine.Tidy s.device := same ▸ orderly.tidy index tenant seated s.device found
  have after := safe.tidy tidy
  have spares := safe.spares tidy
  -- A neighbour holds none of the buffers that the tenant may change.
  have foreign (i : Nat) (b : Tenant) (other : index ≠ i) (seated' : p.tenants[i]? = some b)
      (beside : b.device = tenant.device) (id : BufferId) (binds : b.machine.Binds id) :
      id < s.device.memory.nextId ∧ ¬ s.machine.Binds id ∧ ¬ t.machine.Binds id := by
    have old := (orderly.tidy i b seated' s.device (beside ▸ found)).old binds
    have apart : ¬ s.machine.Binds id :=
      fun mine => orderly.apart index i tenant b other seated seated' beside.symm id (same ▸ mine) binds
    refine ⟨old, apart, fun mine => ?_⟩
    rcases spares.binds id mine with before | new
    · exact apart before
    · exact Nat.not_lt.2 new old
  refine ⟨?_, ?_, ?_⟩
  · intro d member
    rcases List.mem_or_eq_of_mem_set member with old | rfl
    · exact orderly.devices d old
    · exact ⟨after.sound, fun id slot => (after.slot id slot).1⟩
  · intro i b seated' d found'
    rcases getElem?_set_some seated' with ⟨rfl, rfl⟩ | ⟨other, old⟩
    · rcases getElem?_set_some found' with ⟨_, rfl⟩ | ⟨different, _⟩
      · exact after
      · exact absurd rfl different
    · rcases getElem?_set_some found' with ⟨beside, rfl⟩ | ⟨_, elsewhere⟩
      · exact (orderly.tidy i b old s.device (beside ▸ found)).spared spares.device
          fun id binds => (foreign i b other old beside.symm id binds).2.1
      · exact orderly.tidy i b old d elsewhere
  · intro i j a b different seatedA seatedB beside id bindsA bindsB
    rcases getElem?_set_some seatedA with ⟨rfl, rfl⟩ | ⟨otherA, oldA⟩ <;>
      rcases getElem?_set_some seatedB with ⟨rfl, rfl⟩ | ⟨otherB, oldB⟩
    · exact different rfl
    · exact (foreign j b otherB oldB beside.symm id bindsB).2.2 bindsA
    · exact (foreign i a otherA oldA beside id bindsA).2.2 bindsB
    · exact orderly.apart i j a b different oldA oldB beside id bindsA bindsB

/-! ### New tenants -/

section Create

variable {R : Device → Device → Prop} [Op.Transition R]

/-- The devices of the sites are related. -/
def SiteVia (R : Device → Device → Prop) (before after : Machine.Site) : Prop :=
  R before.2 after.2

instance : Op.Transition (SiteVia R) where
  refl site := Op.Transition.refl site.2
  trans first second := Op.Transition.trans (R := R) first second

/-- To build a machine loads the device at most. -/
theorem via_create (loads : Op.Moves Device.ensureLoaded R) (bytes : Bytes) (config : Config) :
    Op.Moves (Machine.create bytes config) (SiteVia R) := by
  unfold Machine.create
  split
  · exact Op.moves_fail _
  refine Op.moves_bind Op.moves_get fun site => ?_
  refine Op.moves_bind (Op.moves_onPart (Machine.moves_prologue loads _ _ _) fun _ _ related => related) fun _ => ?_
  refine Op.moves_bind (Op.moves_modify fun site => ?_) fun _ => ?_
  · obtain ⟨context, device⟩ := site
    cases config.memoryLimit <;> exact Op.Transition.refl device
  refine Op.moves_bind Op.moves_get fun site => ?_
  exact Op.moves_bind (Op.moves_emit _) fun _ => Op.moves_pure _

end Create

/-- A machine that has done nothing yet holds nothing. -/
theorem tidy_of_fresh {m : Machine} {site : Machine.Site} {config : Config} (fresh : m.Fresh site config)
    (ordered : site.2.Orderly) : m.Tidy site.2 ∧ ∀ id, ¬ m.Binds id := by
  have unbound (object : Nat) : m.bindings.buffer? object = none := by
    rw [fresh.bindings, Bindings.buffer?_ofContext]
  have free (id : BufferId) : ¬ m.Binds id := by
    rintro ⟨object, b, bound, _⟩
    cases (unbound object).symm.trans bound
  refine ⟨⟨ordered.sound, Nat.le_of_eq fresh.epoch, Bindings.issuedBy_of_unbound unbound, ?_,
    fun id slot => ⟨ordered.slot id slot, free id⟩, ?_, ?_⟩, free⟩
  · intro object other b b' bound
    cases (unbound object).symm.trans bound
  · intro _ object b bound
    cases (unbound object).symm.trans bound
  · intro slot member code found
    rw [fresh.cache] at member
    rw [(List.mem_replicate.1 member).2] at found
    cases found

/-- One more tenant that holds nothing. -/
theorem Orderly.addTenant (orderly : p.Orderly)
    (tidy : ∀ d, p.devices[tenant.device]? = some d → tenant.machine.Tidy d)
    (free : ∀ id, ¬ tenant.machine.Binds id) : Orderly { p with tenants := p.tenants ++ [tenant] } := by
  refine ⟨orderly.devices, fun i a seated => ?_, fun i j a b different seatedA seatedB beside id binds => ?_⟩
  · rcases getElem?_append_some seated with old | rfl
    · exact orderly.tidy i a old
    · exact tidy
  · rcases getElem?_append_some seatedA with oldA | rfl
    · rcases getElem?_append_some seatedB with oldB | rfl
      · exact orderly.apart i j a b different oldA oldB beside id binds
      · exact free id
    · exact absurd binds (free id)

private theorem Orderly.build (orderly : p.Orderly) (context device : Nat) (program : Bytes) (config : Config) :
    (p.build context device program config).Orderly := by
  unfold Pool.build
  rcases inContexts : p.contexts[context]? with _ | c
  · exact orderly
  rcases inDevices : p.devices[device]? with _ | d
  · exact orderly
  have tame : Device.Tame _ _ :=
    via_create (Device.moves_within Device.only_ensureLoaded (by decide)) program config (c, d)
  rcases built : Machine.create program config (c, d) with ⟨result, ⟨c', d'⟩, log⟩
  rw [built] at tame
  have ordered := orderly_of_tame (orderly.devices d (List.mem_of_getElem? inDevices)) tame
  have moved : Orderly { p with
      contexts := p.contexts.set context c', devices := p.devices.set device d' } := by
    refine (orderly.setDevice ordered fun i tenant seated here => ?_).contexts _
    exact (orderly.tidy i tenant seated d (here ▸ inDevices)).calm tame
  cases result with
  | error e => simpa only [built, Except.toOption, Option.toList_none, List.map_nil, List.append_nil] using moved
  | ok m =>
    have fresh : m.Fresh (c', d') config := Machine.create_fresh ⟨by rw [built], by rw [built]⟩
    obtain ⟨tidy, free⟩ := tidy_of_fresh fresh ordered
    simp only [built]
    refine moved.addTenant (fun d'' found => ?_) free
    rcases getElem?_set_some found with ⟨_, rfl⟩ | ⟨different, _⟩
    · exact tidy
    · exact absurd rfl different

/-- As long as nobody gives back buffers of others, every tenant finds its holdings good. -/
theorem orderly_of_reachable (reachable : p.Reachable permits)
    (spares : ∀ command, permits command → command.Spares) : p.Orderly := by
  induction reachable with
  | start contexts devices unused =>
    refine ⟨fun d member => ?_, fun i tenant seated => ?_, fun i j a b _ seated => ?_⟩
    · obtain ⟨⟨info, deferred⟩, _, rfl⟩ := List.mem_map.1 member
      exact ⟨EventTable.sound_start deferred, fun id ⟨_, remembered, _⟩ => nomatch remembered⟩
    · cases List.not_mem_nil (List.mem_of_getElem? seated)
    · cases List.not_mem_nil (List.mem_of_getElem? seated)
  | @step before after _ step orderly =>
    cases step with
    | build context device program config => exact orderly.build _ _ _ _
    | request index command whole =>
      rcases present : before.session? index with _ | ⟨tenant, s⟩
      · rw [onTenant_absent present]
        exact orderly
      · rw [(onTenant_present present).2]
        obtain ⟨seated, _, found, same⟩ := session?_eq_some.1 present
        exact orderly.put present (MachineCommand.safe whole (same ▸ orderly.tidy index tenant seated s.device found))
    | device index command permitted =>
      have gentle := spares command permitted
      rcases found : before.devices[index]? with _ | d
      · rw [onDevice_absent found]
        exact orderly
      rw [onDevice_present found]
      refine orderly.setDevice ?_ fun i tenant seated here => ?_
      · exact orderly_of_command (orderly.devices d (List.mem_of_getElem? found)) command gentle
      · exact (orderly.tidy i tenant seated d (here ▸ found)).command command gentle
    | setLimit context limit => exact orderly.contexts _
    | setObject context index object => exact orderly.contexts _

/-- What every device has from the start and keeps, whatever is asked of it, by machines or by others. -/
theorem devices_of_reachable {R : Device → Device → Prop} [Op.Transition R] {P : Device → Prop}
    (survives : Device.Survives R) (loads : Op.Moves Device.ensureLoaded R)
    (keeps : ∀ d d', R d d' → P d → P d') (fresh : ∀ info deferred, P (.create info deferred))
    (used : ∀ command, permits command → ∀ d, P d → P (command.run d).state)
    (reachable : p.Reachable permits) : ∀ d ∈ p.devices, P d := by
  have replaced {devices : List Device} {index : Nat} {d : Device} (holds : ∀ d ∈ devices, P d)
      (new : P d) : ∀ d' ∈ devices.set index d, P d' := by
    intro d' member
    rcases List.mem_or_eq_of_mem_set member with old | rfl
    · exact holds d' old
    · exact new
  induction reachable with
  | start contexts devices unused =>
    intro d member
    obtain ⟨⟨info, deferred⟩, _, rfl⟩ := List.mem_map.1 member
    exact fresh info deferred
  | @step before after _ step holds =>
    cases step with
    | build context device program config =>
      unfold build
      rcases before.contexts[context]? with _ | c
      · exact holds
      rcases found : before.devices[device]? with _ | d
      · exact holds
      exact replaced holds (keeps _ _ (via_create loads program config (c, d))
        (holds d (List.mem_of_getElem? found)))
    | request index command whole =>
      rcases present : before.session? index with _ | ⟨tenant, s⟩
      · rw [onTenant_absent present]
        exact holds
      · rw [(onTenant_present present).2]
        obtain ⟨_, _, found, _⟩ := session?_eq_some.1 present
        exact replaced holds (keeps _ _ (command.via survives s) (holds _ (List.mem_of_getElem? found)))
    | device index command permitted =>
      rcases found : before.devices[index]? with _ | d
      · rw [onDevice_absent found]
        exact holds
      · rw [onDevice_present found]
        exact replaced holds (used command permitted d (holds d (List.mem_of_getElem? found)))
    | setLimit context limit => exact holds
    | setObject context index object => exact holds

/-- A device has no other kernels than those that are registered. -/
theorem kernels_of_reachable {P : Kernel → Prop} (spares : ∀ command, permits command → command.Spares)
    (registered : ∀ name kernel, permits (.registerKernel name kernel) → P kernel)
    (reachable : p.Reachable permits) :
    ∀ d ∈ p.devices, ∀ name kernel, d.kernels.get? name = some kernel → P kernel := by
  refine devices_of_reachable Device.survives_sameKernels (Device.moves_within Device.only_ensureLoaded (by decide))
    (fun d d' same all => ?_) (fun info deferred name kernel found => nomatch found) (fun command permitted d all => ?_)
    reachable
  · exact same ▸ all
  have tame (ordinary : command.Ordinary) :
      ∀ name kernel, (command.run d).state.kernels.get? name = some kernel → P kernel :=
    (command.tame (spares command permitted) ordinary d).kernels ▸ all
  cases command with
  | reset => exact all
  | failCompilationOf name => exact all
  | registerKernel name kernel =>
    intro other kernel' found
    change (d.kernels.insert name kernel).get? other = some kernel' at found
    rw [Table.get?_insert] at found
    split at found
    · cases found
      exact registered name kernel permitted
    · exact all other kernel' found
  | _ => exact tame trivial

end Pool
end Offload
