import Offload.Proofs.LiveRequests
import Offload.Proofs.Measurements
import Offload.Proofs.Metrics
import Offload.Proofs.MirroredDevices

/-! Sessions that stand in for one another: the same program at work on the same context, with the same
objects bound to buffers that are the same, on devices that may differ in all that belongs to others.
Each instruction, each pass and each release does the same to both of them, as long as neither device
runs out of memory. -/
namespace Offload

namespace Bindings

/-- The buffers that are bound to the same object on either side. -/
def Pairs (bs bs' : Bindings) (id id' : BufferId) : Prop :=
  ∃ object b b', bs.buffer? object = some b ∧ bs'.buffer? object = some b' ∧ b.id = id ∧ b'.id = id'

variable {bs bs' : Bindings} {object : Nat} {id id' : BufferId}

/-- A change that keeps buffers keeps the pairs of buffers. -/
theorem pairs_modify_same {change : Binding → Binding} (same : ∀ b, (change b).buffer = b.buffer)
    (pair : Pairs (bs.modify object change) (bs'.modify object change) id id') : Pairs bs bs' id id' := by
  obtain ⟨other, b, b', bound, bound', ids⟩ := pair
  rw [buffer?_modify_same same] at bound bound'
  exact ⟨other, b, b', bound, bound', ids⟩

private theorem pairs_bind {b b' : DeviceBuffer}
    (pair : Pairs (bs.modify object (·.bind b)) (bs'.modify object (·.bind b')) id id') :
    Pairs bs bs' id id' ∨ (b.id = id ∧ b'.id = id') := by
  obtain ⟨other, c, c', bound, bound', rfl, rfl⟩ := pair
  rw [buffer?_modify] at bound bound'
  split at bound
  · next same =>
    rw [if_pos same] at bound'
    obtain ⟨_, _, found⟩ := Option.bind_eq_some_iff.1 bound
    obtain ⟨_, _, found'⟩ := Option.bind_eq_some_iff.1 bound'
    cases found
    cases found'
    exact .inr ⟨rfl, rfl⟩
  · next differ =>
    rw [if_neg differ] at bound'
    exact .inl ⟨other, c, c', bound, bound', rfl, rfl⟩

end Bindings

namespace Session

variable {s t : Session} {α β : Type}

/-- The contexts are the same, and the machines and devices as far as the machines can tell. -/
structure Mirrors (s t : Session) : Prop where
  context : s.context = t.context
  machine : s.machine.Kin t.machine
  device : Device.Mirrors (s.machine.bindings.Pairs t.machine.bindings) s.device t.device

theorem Mirrors.setContext {c c' : Context} (mirrors : Mirrors s t) (same : c = c') :
    Mirrors { s with context := c } { t with context := c' } :=
  ⟨same, mirrors.machine, mirrors.device⟩

/-- Each side may go on with another device, if these mirror one another again. -/
theorem Mirrors.setDevice {d d' : Device} (mirrors : Mirrors s t)
    (device : Device.Mirrors (s.machine.bindings.Pairs t.machine.bindings) d d') :
    Mirrors { s with device := d } { t with device := d' } :=
  ⟨mirrors.context, mirrors.machine, device⟩

/-- Machines that have bound no other pairs. -/
theorem Mirrors.setMachine {m m' : Machine} (mirrors : Mirrors s t) (alike : m.Kin m')
    (pairs : ∀ id id', m.bindings.Pairs m'.bindings id id' → s.machine.bindings.Pairs t.machine.bindings id id') :
    Mirrors { s with machine := m } { t with machine := m' } :=
  ⟨mirrors.context, alike, mirrors.device.same, fun id id' pair => mirrors.device.agree id id' (pairs id id' pair)⟩

/-- Frames are not looked at before they are filled again. -/
theorem Mirrors.setFrames (mirrors : Mirrors s t) (frames frames' : Table UInt32 (List KernelArg)) :
    Mirrors { s with machine.frames := frames } { t with machine.frames := frames' } :=
  mirrors.setMachine (mirrors.machine.setFrames frames frames') fun _ _ pair => pair

/-- A bound object has the same size on both sides, and the buffers are a pair. -/
theorem Mirrors.bound {object : Nat} {b b' : DeviceBuffer} (bound : s.machine.bindings.buffer? object = some b)
    (bound' : t.machine.bindings.buffer? object = some b') :
    s.machine.bindings.Pairs t.machine.bindings b.id b'.id :=
  ⟨object, b, b', bound, bound', rfl, rfl⟩

/-- An object is bound to buffers that are the same. -/
theorem Mirrors.bind {b b' : DeviceBuffer} (mirrors : Mirrors s t) (object : Nat) (size : b.size = b'.size)
    (same : s.device.memory.buffers.get? b.id = t.device.memory.buffers.get? b'.id) :
    Mirrors { s with machine.bindings := s.machine.bindings.modify object (·.bind b) }
      { t with machine.bindings := t.machine.bindings.modify object (·.bind b') } := by
  refine ⟨mirrors.context, mirrors.machine.setBindings ?_, mirrors.device.same, fun id id' pair => ?_⟩
  · refine Bindings.modify_congr mirrors.machine.bindings fun c c' alike => ?_
    have atomic : c.atomic = c'.atomic := (congrArg Binding.atomic alike :)
    simp only [Binding.anonymous, Binding.bind, Option.map_some, DeviceBuffer.anonymous, size, atomic]
  · rcases Bindings.pairs_bind pair with old | ⟨rfl, rfl⟩
    · exact mirrors.device.agree id id' old
    · exact same

/-- On tidy sides each buffer has one partner. -/
theorem pairing_of_tidy {d d' : Device} (tidy : s.machine.Tidy d) (tidy' : t.machine.Tidy d') :
    Pairing (s.machine.bindings.Pairs t.machine.bindings) where
  right := by
    rintro id a b ⟨object, x, x', bound, bound', rfl, rfl⟩ ⟨other, y, y', bound₂, bound₂', same, rfl⟩
    have one := tidy.distinct other object y x bound₂ bound same
    subst one
    rw [Option.some.inj (bound'.symm.trans bound₂')]
  left := by
    rintro id a b ⟨object, x, x', bound, bound', rfl, rfl⟩ ⟨other, y, y', bound₂, bound₂', rfl, same⟩
    have one := tidy'.distinct other object y' x' bound₂' bound' same
    subst one
    rw [Option.some.inj (bound.symm.trans bound₂)]

/-! ### Parts of the work -/

/-- Work that is mirrored on the devices is mirrored in the sessions. -/
theorem mirrors_onDevice {op : DeviceOp α} {op' : DeviceOp β} {R : Device → Device → Prop}
    {V : α → β → Device → Device → Prop} {Q : Session → Session → Prop}
    (head : Op.Mirrors op op' R V s.device t.device)
    (lift : ∀ d d', R d d' → Q { s with device := d } { t with device := d' }) :
    Op.Mirrors (onDevice op) (onDevice op') Q (fun a b s t => V a b s.device t.device) s t :=
  Op.mirrors_onPart (Op.mirrors_mapError head (fun _ _ => MachineError.starved_ofDevice) fun _ _ =>
    MachineError.alike_ofDevice) (fun _ _ starved => ⟨starved, starved⟩) lift fun _ _ _ _ holds => holds

/-- A command that leaves pairs the same. -/
theorem mirrors_command {op : DeviceOp α} {op' : DeviceOp β} {V : α → β → Device → Device → Prop}
    (mirrors : Mirrors s t) (head : Op.Mirrors op op'
      (Device.Mirrors (s.machine.bindings.Pairs t.machine.bindings)) V s.device t.device) :
    Op.Mirrors (onDevice op) (onDevice op') Mirrors (fun a b s t => V a b s.device t.device) s t :=
  mirrors_onDevice head fun _ _ => mirrors.setDevice

/-- What was measured is not looked at, nor is the work on events for it. -/
def Measured (before after : Session) : Prop :=
  ∃ device profiler, Device.Still before.device device ∧
    profiler.isEnabled = before.machine.profiler.isEnabled ∧
      after = { before with device, machine.profiler := profiler }

instance : Op.Transition Measured where
  refl s := ⟨s.device, s.machine.profiler, rfl, rfl, rfl⟩
  trans := by
    rintro s _ _ ⟨d, p, still, same, rfl⟩ ⟨d', p', still', same', rfl⟩
    exact ⟨d', p', Op.Transition.trans (R := Device.Still) still still', same'.trans same, rfl⟩

instance : ToleratesMeasures Device.Still Measured where
  device s device still := ⟨device, s.machine.profiler, still, rfl, rfl⟩
  timer s _ _ := ⟨s.device, _, rfl, Profiler.isEnabled_addTimer .., rfl⟩
  kernelTime s _ _ := ⟨s.device, _, rfl, Profiler.isEnabled_addMetric .., rfl⟩

instance : ToleratesMetrics Measured where
  metric s _ _ _ := ⟨s.device, _, rfl, Profiler.isEnabled_addMetric .., rfl⟩

/-- Measurements on either side change nothing that is mirrored. -/
theorem Mirrors.measured {s' t' : Session} (mirrors : Mirrors s t) (left : Measured s s') (right : Measured t t') :
    Mirrors s' t' := by
  obtain ⟨d, p, still, same, rfl⟩ := left
  obtain ⟨d', p', still', same', rfl⟩ := right
  refine ⟨mirrors.context, mirrors.machine.setProfiler ?_, mirrors.device.still still still'⟩
  rw [same, same', mirrors.machine.isEnabled]

/-- Measurements that go through on both sides. -/
theorem mirrors_measured {op : MachineOp α} {op' : MachineOp β} (mirrors : Mirrors s t)
    (moves : Op.Moves op Measured) (moves' : Op.Moves op' Measured) (goes : Op.Goes op s) (goes' : Op.Goes op' t) :
    Op.Mirrors op op' Mirrors (fun _ _ _ _ => True) s t := by
  obtain ⟨a, s', ran, _⟩ := goes
  obtain ⟨b, t', ran', _⟩ := goes'
  exact Op.mirrors_of_yields ran ran' (mirrors.measured (moves.yields ran) (moves'.yields ran')) trivial

end Session

namespace Machine
open Session (Mirrors Safe Excused Measured mirrors_command mirrors_measured)

variable {s t : Session} {last last' : Option EventId} {α β : Type}

/-- Two sessions in the middle of the same pass. -/
structure Abreast (s t : Session) (last last' : Option EventId) : Prop where
  mirrors : Mirrors s t
  left : MidPass s last
  right : MidPass t last'
  same : last.isSome = last'.isSome
  blind : s.device.Blind
  free : s.context.AtomicFree

/-- More work within the pass. -/
theorem Abreast.later {s' t' : Session} (abreast : Abreast s t last last') (safe : Safe s s')
    (safe' : Safe t t') (mirrors : Mirrors s' t') : Abreast s' t' last last' where
  mirrors := mirrors
  left := abreast.left.later safe
  right := abreast.right.later safe'
  same := abreast.same
  blind name kernel found := abreast.blind name kernel (safe.kernels ▸ found)
  free := safe.atomicFree.2 abreast.free

/-- Work that serves the pass on both sides. -/
theorem Abreast.served {s' t' : Session} {op op' : MachineOp α} {a b : α} {P P' : α → Session → Prop}
    (abreast : Abreast s t last last') (serves : Op.Serves op Safe Excused P s)
    (serves' : Op.Serves op' Safe Excused P' t) (ran : Op.Yields op s a s') (ran' : Op.Yields op' t b t')
    (mirrors : Mirrors s' t') : Abreast s' t' last last' :=
  abreast.later (serves.yields ran).1 (serves'.yields ran').1 mirrors

abbrev Anything (_ : α) (_ : β) (_ _ : Session) : Prop :=
  True

/-! ### Measurements -/

/-- To measure a copy is mirrored, whatever the two sides measure. -/
theorem mirrors_profileTransfer {events events' : List EventId} {timer : TimerKind} {metric : MetricKind}
    {object bytes : Nat} (mirrors : Mirrors s t) (awaited : Device.Awaited events events' s.device t.device) :
    Op.Mirrors (profileTransfer events timer metric object bytes)
      (profileTransfer events' timer metric object bytes) Mirrors Anything s t :=
  mirrors_measured mirrors (moves_profileTransfer _ _ _ _ _) (moves_profileTransfer _ _ _ _ _)
    (profileTransfer_goes awaited.1.sound awaited.1.known) (profileTransfer_goes awaited.2.sound awaited.2.known)

/-! ### Event lists -/

/-- Lists at the same place are waited for on both sides. -/
theorem Abreast.waits (abreast : Abreast s t last last') (list : Option UInt32) :
    Op.Mirrors (waitList list) (waitList list) Mirrors (fun wait wait' s' t' => (s = s' ∧ t = t') ∧
      Device.Awaited wait wait' s.device t.device) s t := by
  have awaits {s : Session} {last : Option EventId} (passing : MidPass s last) {wait : List EventId}
      (found : s.machine.lists.waitList (list.map UInt32.toNat) s.machine.config.useDependencies = .ok wait) :
      s.device.Awaits wait := by
    have ran : Op.Yields (waitList list) s wait s :=
      Op.yields_bind.2 ⟨s, s, Op.yields_get.2 ⟨rfl, rfl⟩, Op.yields_ofExcept.2 ⟨found, rfl⟩⟩
    exact ⟨passing.sound, ((serves_waitList passing list).yields ran).2⟩
  refine Op.mirrors_get (Op.mirrors_ofExcept abreast.mirrors ?_)
  have results := EventLists.waitList_congr abreast.mirrors.machine.lists (list.map UInt32.toNat)
    s.machine.config.useDependencies
  have config := abreast.mirrors.machine.config
  rw [← config]
  refine results.attach.weaken fun wait wait' ⟨found, found', _⟩ => ⟨⟨rfl, rfl⟩, awaits abreast.left found, ?_⟩
  rw [config] at found'
  exact awaits abreast.right found'

/-- Both lists are reset or neither is. -/
theorem mirrors_resetList (mirrors : Mirrors s t) (list : Option UInt32) :
    Op.Mirrors (resetList list) (resetList list) Mirrors
      (fun _ _ s' t' => s'.device = s.device ∧ t'.device = t.device) s t :=
  Op.mirrors_step mirrors (Op.paired_map (EventLists.reset_congr mirrors.machine.lists _) fun _ _ same =>
    ⟨mirrors.setMachine (mirrors.machine.setLists same) fun _ _ pair => pair, rfl, rfl⟩)

/-- Both sides add a dependency or neither does. -/
theorem mirrors_addDependency (mirrors : Mirrors s t) (same : last.isSome = last'.isSome)
    (list : Option UInt32) : Op.Mirrors (addDependency last list) (addDependency last' list) Mirrors Anything s t := by
  have idle : Op.Mirrors (pure () : MachineOp Unit) (pure ()) Mirrors Anything s t := Op.mirrors_pure mirrors trivial
  refine Op.mirrors_get ?_
  dsimp only
  rw [mirrors.machine.config]
  rcases t.machine.config.useDependencies with _ | _
  · exact idle
  rcases last with _ | event <;> rcases last' with _ | event' <;> cases same
  · exact idle
  rcases list with _ | list
  · exact idle
  exact Op.mirrors_step mirrors (Op.paired_map (EventLists.push_congr mirrors.machine.lists) fun _ _ same =>
    ⟨mirrors.setMachine (mirrors.machine.setLists same) fun _ _ pair => pair, trivial⟩)

end Machine
end Offload
