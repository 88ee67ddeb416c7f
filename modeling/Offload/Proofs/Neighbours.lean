import Offload.Proofs.LiveHandles
import Offload.Proofs.MirroredPasses

/-! Machines on a device that others use as well. With a context of its own, and without atomic objects, a
machine cannot tell whether it has the device for itself: its requests come to the same, and its
objects, its bindings, its buffers and its usage of memory are the same, whatever the others ask for in
between. Only the numbers of handles differ, and memory may run out earlier. -/
namespace Offload

namespace DeviceCommand

/-- A kernel that is registered does not look at the numbers of its handles. -/
def Blind : DeviceCommand → Prop
  | registerKernel _ kernel => kernel.Blind
  | _ => True

/-- Buffers are given back by their owners only, and kernels are blind. -/
def Discreet (command : DeviceCommand) : Prop :=
  command.Spares ∧ command.Blind

end DeviceCommand

/-- What the owner of a machine asks it for. -/
inductive Request where
  | execute (mode : Mode)
  | warmup
  | freeDeviceMemory
  deriving Repr, DecidableEq

/-- What a request that succeeds comes to. -/
inductive Answer where
  | finished (marker : Option EventId)
  | warm
  | freed (bytes : Nat)
  deriving Repr, DecidableEq

/-- An answer without the numbers of its handles. -/
def Answer.anonymous : Answer → Answer
  | finished marker => finished (marker.map fun _ => 0)
  | other => other

/-- Outcomes that differ in the numbers of handles at most. There is no answer when there is no machine. -/
abbrev AlikeOutcomes : Except MachineError (Option Answer) → Except MachineError (Option Answer) → Prop :=
  Op.Paired fun a b => a.map Answer.anonymous = b.map Answer.anonymous

namespace Request

def run : Request → MachineOp Answer
  | execute mode => Answer.finished <$> Machine.execute mode
  | warmup => (fun _ => .warm) <$> Machine.warmup
  | freeDeviceMemory => Answer.freed <$> Machine.freeDeviceMemory

/-- The request as one of all that a machine can be asked for. -/
def command : Request → MachineCommand
  | execute mode => .execute mode
  | warmup => .warmup
  | freeDeviceMemory => .freeDeviceMemory

variable {s t : Session} (request : Request)

private theorem state_run (s : Session) : (request.run s).state = (request.command.run s).state := by
  cases request with
  | execute mode => exact (Op.map_state _ _ _).trans (Op.map_state _ _ _).symm
  | warmup => exact Op.map_state _ _ _
  | freeDeviceMemory => exact (Op.map_state _ _ _).trans (Op.map_state _ _ _).symm

private theorem whole : request.command.Whole := by
  cases request <;> trivial

private theorem safe (tidy : s.machine.Tidy s.device) : Session.Safe s (request.run s).state :=
  request.state_run s ▸ MachineCommand.safe request.whole tidy

private theorem keeps (s : Session) : s.device.Keeps (request.run s).state.device := by
  rw [state_run]
  exact request.command.via inferInstance s

/-- A request does the same to sessions that stand in for one another. -/
theorem mirrors (level : Machine.Level s t) : Op.Mirrors request.run request.run Session.Mirrors
    (fun a b _ _ => a.anonymous = b.anonymous) s t := by
  cases request with
  | execute mode =>
    refine Op.mirrors_map (Machine.mirrors_execute level mode) fun marker marker' _ _ same => ?_
    rcases marker with _ | marker <;> rcases marker' with _ | marker' <;> cases same <;> rfl
  | warmup => exact Op.mirrors_map (Machine.mirrors_warmup level) fun _ _ _ _ _ => rfl
  | freeDeviceMemory =>
    exact Op.mirrors_map (Machine.mirrors_freeDeviceMemory level.mirrors level.left level.right)
      fun _ _ _ _ same => congrArg Answer.freed same

end Request

/-! ### What an owner sees -/

/-- What an observer of a machine sees of an object: whether it is bound, whether the buffer has received
the object, and what the buffer holds. -/
structure ObjectView where
  bound : Bool
  hasContent : Bool
  bytes : Option Bytes
  deriving DecidableEq

/-- What an observer of a machine sees: the host objects and the memory in use, and each object on the
device. -/
structure MachineView where
  context : Context
  objects : List ObjectView
  deriving DecidableEq

namespace Session

/-- All bytes of a buffer, if it is alive. -/
def bytesOf (s : Session) (b : DeviceBuffer) : Option Bytes :=
  (s.device.memory.buffers.get? b.id).map Buffer.bytes

def view (s : Session) : MachineView where
  context := s.context
  objects := s.machine.bindings.entries.map fun b => ⟨b.isBound, b.hasContent, b.buffer.bind s.bytesOf⟩

variable {s t : Session}

/-- Sessions that stand in for one another look the same. -/
theorem Mirrors.view (mirrors : Mirrors s t) : s.view = t.view := by
  unfold Session.view
  congr 1
  · exact mirrors.context
  refine List.ext_getElem? fun object => ?_
  rw [List.getElem?_map, List.getElem?_map]
  rcases map_eq_map_cases (Bindings.entry_congr mirrors.machine.bindings object) with
    ⟨none, none'⟩ | ⟨b, b', found, found', alike⟩
  · rw [none, none']
    rfl
  rw [found, found']
  have content : b.hasContent = b'.hasContent := (congrArg Binding.hasContent alike :)
  have buffers : b.buffer.map DeviceBuffer.anonymous = b'.buffer.map DeviceBuffer.anonymous :=
    (congrArg Binding.buffer alike :)
  have bytes : b.buffer.bind s.bytesOf = b'.buffer.bind t.bytesOf := by
    rcases map_eq_map_cases buffers with ⟨none, none'⟩ | ⟨x, x', bound, bound', _⟩
    · rw [none, none']
      rfl
    · have pair : s.machine.bindings.Pairs t.machine.bindings x.id x'.id :=
        ⟨object, x, x', by rw [Bindings.buffer?, found]; exact bound, by rw [Bindings.buffer?, found']; exact bound',
          rfl, rfl⟩
      rw [bound, bound']
      exact congrArg (Option.map Buffer.bytes) (mirrors.device.agree _ _ pair)
  simp only [Option.map_some, content, Bindings.isBound_congr alike, bytes]

end Session

namespace Pool

/-! ### Histories -/

/-- Carry out requests of tenants one after the other, whatever becomes of each. -/
def serve : List (Nat × Request) → Pool → Pool
  | [], p => p
  | (i, request) :: rest, p => serve rest (onTenant i request.run p).state

/-- What the requests of one tenant come to. -/
def outcomes (index : Nat) : List (Nat × Request) → Pool → List (Except MachineError (Option Answer))
  | [], _ => []
  | (i, request) :: rest, p =>
    let outcome := onTenant i request.run p
    if i = index then outcome.result :: outcomes index rest outcome.state
    else outcomes index rest outcome.state

/-- The requests of one tenant. -/
def ownRequests (index : Nat) (history : List (Nat × Request)) : List (Nat × Request) :=
  history.filter fun entry => entry.1 = index

/-- No request of the tenant fails because its device has run out of memory. -/
def Sated (index : Nat) : List (Nat × Request) → Pool → Prop
  | [], _ => True
  | (i, request) :: rest, p =>
    (i = index → ∀ tenant s, p.session? i = some (tenant, s) → ¬ Op.Starves request.run s) ∧
      Sated index rest (onTenant i request.run p).state

/-- No other machine works on the context of the tenant. -/
def OwnsContext (p : Pool) (index : Nat) : Prop :=
  ∀ i a b, i ≠ index → p.tenants[i]? = some a → p.tenants[index]? = some b → a.context ≠ b.context

/-- What the owner of a machine sees of it. -/
def view? (p : Pool) (index : Nat) : Option MachineView :=
  (p.session? index).map fun seated => seated.2.view

variable {p q : Pool} {index i : Nat} {tenant other : Tenant} {s t u : Session}

private theorem session?_put_self (present : p.session? index = some (tenant, s)) :
    (p.put index tenant t).session? index = some ({ tenant with machine := t.machine }, t) := by
  obtain ⟨seated, context, device, _⟩ := session?_eq_some.1 present
  obtain ⟨inSeats, _⟩ := List.getElem?_eq_some_iff.1 seated
  obtain ⟨inContexts, _⟩ := List.getElem?_eq_some_iff.1 context
  obtain ⟨inDevices, _⟩ := List.getElem?_eq_some_iff.1 device
  exact session?_eq_some.2 ⟨List.getElem?_set_self inSeats, List.getElem?_set_self inContexts,
    List.getElem?_set_self inDevices, rfl⟩

/-- The work of a tenant on another context is seen on the device at most. -/
theorem session?_put_other (present : p.session? i = some (other, u)) (seated : p.session? index = some (tenant, s))
    (apart : i ≠ index) (contexts : other.context ≠ tenant.context) :
    (p.put i other t).session? index = some (tenant,
      { s with device := if other.device = tenant.device then t.device else s.device }) := by
  obtain ⟨seat, context, device, machine⟩ := session?_eq_some.1 seated
  obtain ⟨_, _, device', _⟩ := session?_eq_some.1 present
  refine session?_eq_some.2 ⟨?_, ?_, ?_, machine⟩
  · exact (List.getElem?_set_ne apart).trans seat
  · exact (List.getElem?_set_ne contexts).trans context
  · obtain ⟨inDevices, _⟩ := List.getElem?_eq_some_iff.1 device'
    dsimp only [put]
    split
    · next same => rw [← same, List.getElem?_set_self inDevices]
    · next differ => exact (List.getElem?_set_ne differ).trans device

/-- No two machines work on the same context. -/
theorem ownsContext_of_nodup (apart : (p.tenants.map Tenant.context).Nodup) : p.OwnsContext index := by
  intro i a b differ seated seated' same
  have equal : (p.tenants.map Tenant.context)[i]? = (p.tenants.map Tenant.context)[index]? := by
    rw [List.getElem?_map, List.getElem?_map, seated, seated']
    exact congrArg some same
  obtain ⟨inSeats, _⟩ := List.getElem?_eq_some_iff.1 seated
  exact differ ((List.getElem?_inj (by rwa [List.length_map]) apart).1 equal)

private theorem OwnsContext.put (owns : p.OwnsContext index) (present : p.session? i = some (other, u)) :
    (p.put i other t).OwnsContext index := by
  obtain ⟨seat, _, _, _⟩ := session?_eq_some.1 present
  -- The seats keep their contexts.
  have kept {j : Nat} {a : Tenant} (seated : (p.tenants.set i { other with machine := t.machine })[j]? = some a) :
      ∃ b, p.tenants[j]? = some b ∧ b.context = a.context := by
    rcases getElem?_set_some seated with ⟨rfl, rfl⟩ | ⟨_, old⟩
    · exact ⟨other, seat, rfl⟩
    · exact ⟨a, old, rfl⟩
  intro j a b differ seatedA seatedB
  obtain ⟨a', oldA, sameA⟩ := kept seatedA
  obtain ⟨b', oldB, sameB⟩ := kept seatedB
  rw [← sameA, ← sameB]
  exact owns j a' b' differ oldA oldB

/-! ### With and without the others -/

/-- A tenant in two pools, with sessions that stand in for one another. In the first one there may be work
of others as well, on contexts of their own. -/
structure Beside (index : Nat) (p q : Pool) : Prop where
  orderly : p.Orderly
  orderly' : q.Orderly
  owns : p.OwnsContext index
  level : ∃ a s b t, p.session? index = some (a, s) ∧ q.session? index = some (b, t) ∧ Machine.Level s t

private theorem Beside.same_view (beside : Beside index p q) :
    ∃ view, p.view? index = some view ∧ q.view? index = some view := by
  obtain ⟨a, s, b, t, present, present', level⟩ := beside.level
  refine ⟨s.view, ?_, ?_⟩
  · rw [view?, present]
    rfl
  · rw [view?, present', level.mirrors.view]
    rfl

/-- Each tenant finds its holdings good. -/
theorem Orderly.tidy_session (orderly : p.Orderly) (present : p.session? index = some (tenant, s)) :
    s.machine.Tidy s.device := by
  obtain ⟨seated, _, found, same⟩ := session?_eq_some.1 present
  exact same ▸ orderly.tidy index tenant seated s.device found

/-- The work of another machine on the device is not noticed. -/
theorem level_of_neighbour {d : Device} (level : Machine.Level s t) (binds : BufferId → Prop)
    (keeps : s.device.Keeps d) (spares : Device.Spares binds s.device d)
    (apart : ∀ id, s.machine.Binds id → ¬ binds id) : Machine.Level { s with device := d } t where
  mirrors := by
    refine ⟨level.mirrors.context, level.mirrors.machine, level.mirrors.device.others keeps ?_⟩
    rintro id _ ⟨object, b, _, bound, _, rfl, _⟩
    have mine : s.machine.Binds b.id := ⟨object, b, bound, rfl⟩
    exact spares.buffers b.id (level.left.old mine) (apart b.id mine) fun slot =>
      (level.left.slot b.id slot).2 mine
  left := level.left.spared spares apart
  right := level.right
  blind name kernel found := level.blind name kernel (keeps.kernels ▸ found)
  free := level.free

/-- A request of someone else changes nothing for the tenant. -/
theorem Beside.foreign (beside : Beside index p q) (apart : i ≠ index) (request : Request) :
    Beside index (onTenant i request.run p).state q := by
  obtain ⟨a, s, b, t, present, present', level⟩ := beside.level
  rcases seated : p.session? i with _ | ⟨other, u⟩
  · rw [onTenant_absent seated]
    exact beside
  rw [(onTenant_present seated).2]
  have tidy := beside.orderly.tidy_session seated
  have safe := request.safe tidy
  obtain ⟨seatI, _, deviceI, machineI⟩ := session?_eq_some.1 seated
  obtain ⟨seat, _, device, machine⟩ := session?_eq_some.1 present
  refine ⟨beside.orderly.put seated safe, beside.orderly', beside.owns.put seated, a, _, b, t,
    session?_put_other seated present apart (beside.owns i other a apart seatI seat), present', ?_⟩
  split
  · next same =>
    have together : u.device = s.device := by
      rw [same] at deviceI
      exact Option.some.inj (deviceI.symm.trans device)
    refine level_of_neighbour level u.machine.Binds (together ▸ request.keeps u)
      (together ▸ (safe.spares tidy).device) fun id mine foreign => ?_
    exact beside.orderly.apart i index other a apart seatI seat same id (machineI ▸ foreign) (machine ▸ mine)
  · exact level

/-- A request of the tenant comes to the same in both pools, and leaves the same behind. -/
theorem Beside.own (beside : Beside index p q) (request : Request)
    (enough : ∀ tenant s, p.session? index = some (tenant, s) → ¬ Op.Starves request.run s)
    (enough' : ∀ tenant s, q.session? index = some (tenant, s) → ¬ Op.Starves request.run s) :
    AlikeOutcomes (onTenant index request.run p).result (onTenant index request.run q).result ∧
      Beside index (onTenant index request.run p).state (onTenant index request.run q).state := by
  obtain ⟨a, s, b, t, present, present', level⟩ := beside.level
  rcases request.mirrors level with (starves | starves) | ⟨mirrors, same⟩
  · exact absurd starves (enough a s present)
  · exact absurd starves (enough' b t present')
  rw [(onTenant_present present).1, (onTenant_present present).2, (onTenant_present present').1,
    (onTenant_present present').2]
  have safe := request.safe level.left
  have safe' := request.safe level.right
  refine ⟨Op.paired_map same fun _ _ equal => congrArg some equal, beside.orderly.put present safe,
    beside.orderly'.put present' safe', beside.owns.put present, _, _, _, _, session?_put_self present,
    session?_put_self present', mirrors, safe.tidy level.left, safe'.tidy level.right, ?_,
    safe.atomicFree.2 level.free⟩
  exact fun name kernel found => level.blind name kernel (safe.kernels ▸ found)

private theorem Beside.run {history : List (Nat × Request)} (beside : Beside index p q)
    (enough : Sated index history p) (enough' : Sated index (ownRequests index history) q) :
    List.Forall₂ AlikeOutcomes (outcomes index history p) (outcomes index (ownRequests index history) q) ∧
      Beside index (serve history p) (serve (ownRequests index history) q) := by
  -- A request of the tenant moves both pools, one of someone else only the first of them.
  induction history generalizing p q with
  | nil => exact ⟨.nil, beside⟩
  | cons entry rest ih =>
    obtain ⟨i, request⟩ := entry
    by_cases mine : i = index
    · subst mine
      have filtered : ownRequests i ((i, request) :: rest) = (i, request) :: ownRequests i rest :=
        List.filter_cons_of_pos (by simp)
      rw [filtered] at enough' ⊢
      obtain ⟨alike, later⟩ := beside.own request (enough.1 rfl) (enough'.1 rfl)
      obtain ⟨others, done⟩ := ih later enough.2 enough'.2
      simp only [outcomes, if_pos]
      exact ⟨.cons alike others, done⟩
    · have filtered : ownRequests index ((i, request) :: rest) = ownRequests index rest :=
        List.filter_cons_of_neg (by simpa using mine)
      rw [filtered] at enough' ⊢
      simp only [outcomes, if_neg mine]
      exact ih (beside.foreign mine request) enough.2 enough'

/-- A session stands in for itself. -/
theorem level_self (tidy : s.machine.Tidy s.device) (blind : s.device.Blind) (free : s.context.AtomicFree) :
    Machine.Level s s := by
  refine ⟨⟨rfl, rfl, rfl, ?_⟩, tidy, tidy, blind, free⟩
  rintro id id' ⟨object, b, b', bound, bound', rfl, rfl⟩
  rw [Option.some.inj (bound.symm.trans bound')]

/-- Machines that share a device do not disturb each other: whatever the others ask for in between, the
requests of a machine with a context of its own come to the same as without the others, and the machine
looks the same afterwards. -/
theorem undisturbed (reachable : p.Reachable DeviceCommand.Discreet) (present : p.session? index = some (tenant, s))
    (owns : p.OwnsContext index) (free : s.context.AtomicFree) {history : List (Nat × Request)}
    (enough : Sated index history p) (enough' : Sated index (ownRequests index history) p) :
    List.Forall₂ AlikeOutcomes (outcomes index history p) (outcomes index (ownRequests index history) p) ∧
      ∃ view, (serve history p).view? index = some view ∧
        (serve (ownRequests index history) p).view? index = some view := by
  have orderly := orderly_of_reachable reachable fun _ discreet => discreet.1
  have blind : s.device.Blind :=
    kernels_of_reachable (fun _ discreet => discreet.1) (fun _ _ discreet => discreet.2) reachable s.device
      (List.mem_of_getElem? (session?_eq_some.1 present).2.2.1)
  have beside : Beside index p p := ⟨orderly, orderly, owns, tenant, s, tenant, s, present, present,
    level_self (orderly.tidy_session present) blind free⟩
  obtain ⟨alike, after⟩ := beside.run enough enough'
  exact ⟨alike, after.same_view⟩

/-- Requests that succeed have not run out of memory. -/
theorem sated_of_succeeds {history : List (Nat × Request)}
    (succeeds : ∀ outcome ∈ outcomes index history p, outcome.isOk) : Sated index history p := by
  induction history generalizing p with
  | nil => trivial
  | cons entry rest ih =>
    obtain ⟨i, request⟩ := entry
    rw [outcomes] at succeeds
    refine ⟨fun mine tenant s present starves => ?_, ih fun outcome member => succeeds outcome ?_⟩
    · rw [if_pos mine] at succeeds
      obtain ⟨e, failed, _⟩ := starves
      have outcome := succeeds _ List.mem_cons_self
      rw [(onTenant_present present).1, failed] at outcome
      cases outcome
    · split
      · exact List.mem_cons_of_mem _ member
      · exact member

/-- The two machines of `takingTurns`, when the first one has gone back to untracked events. -/
def sideBySide : Pool :=
  (onTenant 0 (MachineCommand.setConfig { useDependencies := false }).run takingTurns).state

/-- While the second machine runs, gives everything back and runs again, the first one does the same, and
warms up before it runs again. -/
def turns : List (Nat × Request) :=
  [(1, .execute .run), (0, .execute .run), (1, .freeDeviceMemory), (0, .freeDeviceMemory), (0, .warmup),
    (1, .execute .run), (0, .execute .run)]

private theorem sideBySide_reachable : sideBySide.Reachable DeviceCommand.Discreet :=
  .step (takingTurns_reached ⟨trivial, trivial⟩ ⟨trivial, Kernel.blind_fixed _⟩)
    (.request _ 0 (.setConfig { useDependencies := false }) trivial)

/-- The first machine counts to three, with or without the second one. -/
theorem turns_undisturbed : ∃ view : MachineView,
    List.Forall₂ AlikeOutcomes (outcomes 0 turns sideBySide) (outcomes 0 (ownRequests 0 turns) sideBySide) ∧
      (serve turns sideBySide).view? 0 = some view ∧
        (serve (ownRequests 0 turns) sideBySide).view? 0 = some view ∧
        view.objects = [⟨true, true, some (List.flatten (List.replicate 4 [3, 0, 0, 0]))⟩] := by
  have facts : (sideBySide.session? 0).map (fun seated => seated.2.context.objects.map ObjectEntry.atomic) =
      some [false] := by decide +kernel
  have counted : ((serve turns sideBySide).view? 0).map MachineView.objects =
      some [⟨true, true, some (List.flatten (List.replicate 4 [3, 0, 0, 0]))⟩] := by decide +kernel
  have enough : Sated 0 turns sideBySide := sated_of_succeeds (List.all_eq_true.1 (by decide +kernel))
  have enough' : Sated 0 (ownRequests 0 turns) sideBySide :=
    sated_of_succeeds (List.all_eq_true.1 (by decide +kernel))
  obtain ⟨⟨tenant, s⟩, present, atomics⟩ := Option.map_eq_some_iff.1 facts
  have free : s.context.AtomicFree := by
    rw [Machine.atomicFree_iff, atomics]
    simp
  obtain ⟨alike, view, seen, seen'⟩ := undisturbed sideBySide_reachable present
    (ownsContext_of_nodup (by decide +kernel)) free enough enough'
  rw [seen] at counted
  exact ⟨view, alike, seen, seen', Option.some.inj counted⟩

end Pool
end Offload
