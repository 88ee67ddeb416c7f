import Offload.Proofs.Accounting
import Offload.Proofs.Commands
import Offload.Proofs.LostBuffers

/-! The books of a pool. What is charged to a context is what its machines have bound, whichever devices they
have it on and whatever has become of it there; and what a machine has lost by a reset is not there. -/
namespace Offload

/-- The tables of objects and of bindings keep their sizes. -/
structure Session.Shapes (before after : Session) : Prop where
  objects : after.context.objects.length = before.context.objects.length
  bindings : after.machine.bindings.entries.length = before.machine.bindings.entries.length

namespace Session

instance : Op.Transition Shapes where
  refl _ := ⟨rfl, rfl⟩
  trans first second := ⟨second.objects.trans first.objects, second.bindings.trans first.bindings⟩

instance : Tolerant Device.Any Shapes where
  device _ _ _ := ⟨rfl, rfl⟩
  timer _ _ _ := ⟨rfl, rfl⟩
  kernelTime _ _ _ := ⟨rfl, rfl⟩
  passes _ _ _ _ := ⟨rfl, rfl⟩
  metric _ _ _ _ := ⟨rfl, rfl⟩
  object _ _ _ := ⟨List.length_modify _ _ _, rfl⟩
  lists _ _ _ := ⟨rfl, rfl⟩
  code _ _ _ _ := ⟨rfl, rfl⟩
  binding _ _ _ := ⟨rfl, List.length_modify _ _ _⟩
  forget _ := ⟨rfl, List.length_map _⟩
  charge _ _ := ⟨rfl, rfl⟩
  discharge _ _ := ⟨rfl, rfl⟩

instance : ToleratesSettings Shapes where
  settings _ _ _ _ _ := ⟨rfl, rfl⟩
  limit _ _ := ⟨rfl, rfl⟩

private theorem shapes_command (command : MachineCommand) : Op.Moves command.run Shapes :=
  Tolerant.command command

end Session

/-- To build a machine leaves the objects of the context alone. -/
theorem Machine.objects_create (bytes : Bytes) (config : Config) (site : Machine.Site) :
    (Machine.create bytes config site).state.1.objects = site.1.objects := by
  let Same (before after : Machine.Site) : Prop := after.1.objects = before.1.objects
  have transition : Op.Transition Same := ⟨fun _ => rfl, fun first second => Eq.trans second first⟩
  have moves : Op.Moves (Machine.create bytes config) Same := by
    unfold Machine.create
    split
    · exact Op.moves_fail _
    refine Op.moves_bind Op.moves_get fun site => Op.moves_bind (fun _ => rfl) fun _ => ?_
    refine Op.moves_bind (Op.moves_modify fun site => ?_) fun _ => ?_
    · cases config.memoryLimit <;> rfl
    exact Op.moves_bind Op.moves_get fun _ => Op.moves_bind (Op.moves_emit _) fun _ => Op.moves_pure _
  exact moves site

/-- The bytes that a tenant has bound, if it works in the context. -/
def Tenant.bytesIn (context : Nat) (tenant : Tenant) : Nat :=
  if tenant.context = context then tenant.machine.bindings.boundBytes else 0

namespace Machine.Lapsed

variable {m : Machine} {d d' : Device}

/-- What is gone stays gone. -/
theorem later (lapsed : m.Lapsed d) (old : ∀ id, m.Binds id → id < d.memory.nextId)
    (epoch : d'.epoch = d.epoch) (grows : d.memory.Grows d'.memory) : m.Lapsed d' := by
  intro stale id binds
  rcases here : d'.memory.buffers.get? id with _ | held
  · rfl
  · obtain ⟨earlier, found, _⟩ := grows.sizes id held (old id binds) here
    rw [lapsed (epoch ▸ stale) id binds] at found
    cases found

/-- A reset takes everything. -/
theorem command (lapsed : m.Lapsed d) (tidy : m.Tidy d) (command : DeviceCommand) (spares : command.Spares) :
    m.Lapsed (command.run d).state := by
  have ordinary (ordinary : command.Ordinary) : m.Lapsed (command.run d).state :=
    lapsed.later (fun _ => tidy.old) (command.tame spares ordinary d).epoch (command.grows d)
  cases command with
  | reset => exact fun _ _ _ => rfl
  | registerKernel name kernel => exact lapsed
  | failCompilationOf name => exact lapsed
  | _ => exact ordinary trivial

end Machine.Lapsed

namespace Pool

variable {permits : DeviceCommand → Prop} {p : Pool} {index : Nat} {tenant : Tenant} {s t : Session}

/-- The bytes that the machines on a context have bound. -/
def boundBytes (p : Pool) (context : Nat) : Nat :=
  (p.tenants.map (Tenant.bytesIn context)).sum

/-- A tenant has a binding for each object of its context, and nothing is there that it has lost. -/
structure Seats (p : Pool) (tenant : Tenant) : Prop where
  context : ∃ c, p.contexts[tenant.context]? = some c ∧ tenant.machine.bindings.entries.length = c.objects.length
  device : ∃ d, p.devices[tenant.device]? = some d ∧ tenant.machine.Lapsed d

/-- Every context is charged with what is bound. -/
structure Accounted (p : Pool) : Prop where
  usage : ∀ k c, p.contexts[k]? = some c → c.memory.usage = p.boundBytes k
  seats : ∀ (i : Nat) (tenant : Tenant), p.tenants[i]? = some tenant → p.Seats tenant

/-- What can be said of an entry can be said after one is replaced by another of which it can be said. -/
theorem exists_set {α : Type} {P : α → Prop} {l : List α} {i j : Nat} {a b : α} (found : l[i]? = some a)
    (keeps : P a → P b) (there : ∃ x, l[j]? = some x ∧ P x) : ∃ x, (l.set i b)[j]? = some x ∧ P x := by
  obtain ⟨x, here, holds⟩ := there
  by_cases same : i = j
  · subst same
    cases found.symm.trans here
    exact ⟨b, List.getElem?_set_self (List.getElem?_eq_some_iff.1 found).1, keeps holds⟩
  · exact ⟨x, (List.getElem?_set_ne same).trans here, holds⟩

/-- For one tenant the others are so many bytes besides. -/
theorem Accounted.books (accounted : p.Accounted) (orderly : p.Orderly)
    (present : p.session? index = some (tenant, s)) :
    ∃ others, s.Books others ∧ ∀ m : Machine,
      ((p.tenants.set index { tenant with machine := m }).map (Tenant.bytesIn tenant.context)).sum =
        m.bindings.boundBytes + others := by
  obtain ⟨seated, inContexts, inDevices, same⟩ := session?_eq_some.1 present
  obtain ⟨others, whole, changed⟩ := sum_map_others (Tenant.bytesIn tenant.context) seated
  refine ⟨others, ⟨?_, ?_⟩, fun m => ?_⟩
  · rw [accounted.usage _ _ inContexts, boundBytes, whole, Tenant.bytesIn, if_pos rfl, same]
  · exact same ▸ (orderly.tidy index tenant seated s.device inDevices).issued
  · rw [changed, Tenant.bytesIn, if_pos rfl]

/-- A context may change, as long as its usage and its number of objects stay. -/
theorem Accounted.setContext (accounted : p.Accounted) {c c' : Context} (found : p.contexts[index]? = some c)
    (usage : c'.memory.usage = c.memory.usage) (objects : c'.objects.length = c.objects.length) :
    Accounted { p with contexts := p.contexts.set index c' } where
  usage k c'' found' := by
    rcases getElem?_set_some found' with ⟨rfl, rfl⟩ | ⟨_, old⟩
    · rw [usage]
      exact accounted.usage _ _ found
    · exact accounted.usage _ _ old
  seats i tenant seated := by
    obtain ⟨context, device⟩ := accounted.seats i tenant seated
    refine ⟨exists_set found (fun length => ?_) context, device⟩
    rw [objects]
    exact length

/-- A device may change, as long as what the machines on it have lost does not come back. -/
theorem Accounted.setDevice (accounted : p.Accounted) {d d' : Device} (found : p.devices[index]? = some d)
    (lapsed : ∀ (i : Nat) (tenant : Tenant), p.tenants[i]? = some tenant → tenant.device = index →
      tenant.machine.Lapsed d → tenant.machine.Lapsed d') :
    Accounted { p with devices := p.devices.set index d' } where
  usage := accounted.usage
  seats i tenant seated := by
    obtain ⟨context, d'', here, holds⟩ := accounted.seats i tenant seated
    refine ⟨context, ?_⟩
    by_cases same : index = tenant.device
    · subst same
      cases found.symm.trans here
      exact exists_set found (lapsed i tenant seated rfl) ⟨d, found, holds⟩
    · exact ⟨d'', (List.getElem?_set_ne same).trans here, holds⟩

/-- What a tenant does is booked. -/
theorem Accounted.put (accounted : p.Accounted) (orderly : p.Orderly)
    (present : p.session? index = some (tenant, s)) (accounts : Session.Accounts s t)
    (grows : s.device.memory.Grows t.device.memory) (shapes : Session.Shapes s t) (lapses : Session.Lapses s t) :
    (p.put index tenant t).Accounted := by
  obtain ⟨seated, inContexts, inDevices, same⟩ := session?_eq_some.1 present
  obtain ⟨others, books, changed⟩ := accounted.books orderly present
  have tidy := orderly.tidy index tenant seated s.device inDevices
  have later (m : Machine) (old : ∀ id, m.Binds id → id < s.device.memory.nextId) (lapsed : m.Lapsed s.device) :
      m.Lapsed t.device := lapsed.later old lapses.tracks.device grows
  refine ⟨fun k c found => ?_, fun i b seated' => ?_⟩
  · rcases getElem?_set_some found with ⟨rfl, rfl⟩ | ⟨other, old⟩
    · exact (accounts others books).usage.trans (changed t.machine).symm
    · have moved := sum_map_set (Tenant.bytesIn k) ({ tenant with machine := t.machine } : Tenant) seated
      simp only [Tenant.bytesIn, if_neg other, Nat.add_zero] at moved
      exact (accounted.usage k c old).trans moved.symm
  · rcases getElem?_set_some seated' with ⟨rfl, rfl⟩ | ⟨_, old⟩
    · obtain ⟨⟨c, found, length⟩, d, here, lapsed⟩ := accounted.seats index tenant seated
      cases inContexts.symm.trans found
      cases inDevices.symm.trans here
      refine ⟨⟨t.context, List.getElem?_set_self (List.getElem?_eq_some_iff.1 found).1, ?_⟩,
        t.device, List.getElem?_set_self (List.getElem?_eq_some_iff.1 here).1, fun stale id binds => ?_⟩
      · exact shapes.bindings.trans (same ▸ length.trans shapes.objects.symm)
      · rw [same] at tidy lapsed
        refine later s.machine (fun _ => tidy.old) lapsed (fun current => stale ?_) id (lapses.binds stale id binds)
        exact lapses.tracks.current (lapses.tracks.device ▸ current)
    · obtain ⟨context, d, here, lapsed⟩ := accounted.seats i b old
      refine ⟨exists_set inContexts (fun length => length.trans shapes.objects.symm) context, ?_⟩
      by_cases beside : tenant.device = b.device
      · have inDevices' := beside ▸ inDevices
        cases inDevices'.symm.trans here
        refine ⟨t.device, ?_, later b.machine (fun _ => (orderly.tidy i b old _ here).old) lapsed⟩
        rw [← beside]
        exact List.getElem?_set_self (List.getElem?_eq_some_iff.1 inDevices).1
      · exact ⟨d, (List.getElem?_set_ne beside).trans here, lapsed⟩

/-- A context may be changed in place, too. -/
theorem Accounted.modifyContext (accounted : p.Accounted) (context : Nat) {change : Context → Context}
    (usage : ∀ c, (change c).memory.usage = c.memory.usage)
    (objects : ∀ c, (change c).objects.length = c.objects.length) :
    Accounted { p with contexts := p.contexts.modify context change } := by
  rcases found : p.contexts[context]? with _ | c
  · rwa [List.modify_eq_self (List.getElem?_eq_none_iff.1 found)]
  · rw [List.modify_eq_set_getElem?, found]
    exact accounted.setContext found (usage c) (objects c)

/-- One more tenant that holds nothing. -/
theorem Accounted.addTenant (accounted : p.Accounted) (free : tenant.machine.bindings.boundBytes = 0)
    (seats : p.Seats tenant) : Accounted { p with tenants := p.tenants ++ [tenant] } where
  usage k c found := by
    have nothing : tenant.bytesIn k = 0 := by
      unfold Tenant.bytesIn
      split
      · exact free
      · rfl
    show c.memory.usage = ((p.tenants ++ [tenant]).map (Tenant.bytesIn k)).sum
    rw [List.map_append, List.sum_append, List.map_singleton, List.sum_cons, nothing]
    exact accounted.usage k c found
  seats i a seated := by
    rcases getElem?_append_some seated with old | rfl
    · obtain ⟨context, device⟩ := accounted.seats i a old
      exact ⟨context, device⟩
    · exact ⟨seats.context, seats.device⟩

private theorem Accounted.build (accounted : p.Accounted) (orderly : p.Orderly) (context device : Nat) (program : Bytes)
    (config : Config) : (p.build context device program config).Accounted := by
  unfold Pool.build
  rcases inContexts : p.contexts[context]? with _ | c
  · exact accounted
  rcases inDevices : p.devices[device]? with _ | d
  · exact accounted
  have tame : Device.Tame _ _ :=
    via_create (Device.moves_within Device.only_ensureLoaded (by decide)) program config (c, d)
  have kept := Machine.siteKeeps_create program config (c, d)
  have objects := Machine.objects_create program config (c, d)
  rcases built : Machine.create program config (c, d) with ⟨result, ⟨c', d'⟩, log⟩
  rw [built] at tame kept objects
  have moved : Accounted { p with
      contexts := p.contexts.set context c', devices := p.devices.set device d' } := by
    refine (accounted.setDevice inDevices fun i tenant seated here lapsed => ?_).setContext inContexts kept.usage
      (congrArg List.length objects)
    exact lapsed.later (fun _ => (orderly.tidy i tenant seated d (here ▸ inDevices)).old) tame.epoch tame.memory
  cases result with
  | error e => simpa only [built, Except.toOption, Option.toList_none, List.map_nil, List.append_nil] using moved
  | ok m =>
    have fresh : m.Fresh (c', d') config := Machine.create_fresh ⟨by rw [built], by rw [built]⟩
    simp only [built]
    refine moved.addTenant ?_ ⟨⟨c', ?_, ?_⟩, d', ?_, fun stale => absurd fresh.epoch.symm stale⟩
    · rw [fresh.bindings, Bindings.boundBytes_ofContext]
    · exact List.getElem?_set_self (List.getElem?_eq_some_iff.1 inContexts).1
    · rw [fresh.bindings]
      exact List.length_map _
    · exact List.getElem?_set_self (List.getElem?_eq_some_iff.1 inDevices).1

/-- In every history, contexts are charged with what is bound. -/
theorem accounted_of_reachable (reachable : p.Reachable permits)
    (spares : ∀ command, permits command → command.Spares) : p.Accounted := by
  induction reachable with
  | start contexts devices unused =>
    exact ⟨fun k c found => unused c (List.mem_of_getElem? found), fun i tenant seated => nomatch seated⟩
  | @step before after reachable step accounted =>
    have orderly := orderly_of_reachable reachable spares
    cases step with
    | build context device program config => exact accounted.build orderly _ _ _ _
    | request index command whole =>
      rcases present : before.session? index with _ | ⟨tenant, s⟩
      · rw [onTenant_absent present]
        exact accounted
      · rw [(onTenant_present present).2]
        have continues := continues_command command s
        exact accounted.put orderly present continues.accounts continues.device.memory
          (Session.shapes_command command s) (Session.lapses_command whole s)
    | device index command permitted =>
      rcases found : before.devices[index]? with _ | d
      · rw [onDevice_absent found]
        exact accounted
      · rw [onDevice_present found]
        exact accounted.setDevice found fun i tenant seated here lapsed =>
          lapsed.command (orderly.tidy i tenant seated d (here ▸ found)) command (spares command permitted)
    | setLimit context limit => exact accounted.modifyContext context (fun _ => rfl) fun _ => rfl
    | setObject context index object =>
      exact accounted.modifyContext context (fun _ => rfl) fun _ => List.length_modify _ _ _

end Pool
end Offload
