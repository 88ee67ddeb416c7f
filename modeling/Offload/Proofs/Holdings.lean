import Offload.Proofs.Release
import Offload.Proofs.Spared

/-! What a machine holds on a device: bound buffers, binaries, and, while a pass is under way, the
events in its lists. As long as the machine and the device agree on the epoch, all of it is good. Each
part of the work of a machine keeps it so, whatever becomes of the part, and changes no buffer of
another owner. -/
namespace Offload

namespace Machine

variable {m m' : Machine} {d d' : Device} {id : BufferId}

/-- The machine has bound a buffer with this id. -/
def Binds (m : Machine) (id : BufferId) : Prop :=
  ∃ object b, m.bindings.buffer? object = some b ∧ b.id = id

/-- Bound buffers are the machine's own, and they are alive in the epoch that the machine knows; its
binaries are of that epoch. -/
structure Tidy (m : Machine) (d : Device) : Prop where
  sound : d.events.Sound
  epoch : m.epoch ≤ d.epoch
  issued : m.bindings.IssuedBy d.memory
  distinct : ∀ object other b b', m.bindings.buffer? object = some b →
    m.bindings.buffer? other = some b' → b.id = b'.id → object = other
  slot : ∀ id, d.Slot id → id < d.memory.nextId ∧ ¬ m.Binds id
  live : d.epoch = m.epoch → ∀ object b, m.bindings.buffer? object = some b → d.memory.Live b
  binaries : ∀ slot ∈ m.cache.slots, ∀ code, slot.binary = some code → code.epoch = m.epoch

/-- A pass has begun: the epochs agree, and the events in the lists are good. -/
structure Underway (m : Machine) (d : Device) : Prop where
  current : d.epoch = m.epoch
  lists : ∀ events ∈ m.lists.lists, ∀ e ∈ events, d.events.Knows e

theorem Tidy.old (tidy : m.Tidy d) (binds : m.Binds id) : id < d.memory.nextId := by
  obtain ⟨object, b, bound, rfl⟩ := binds
  exact (tidy.issued object b bound).1

/-- Holdings stay good on a device that keeps their buffers. -/
theorem Tidy.later {owned : BufferId → Prop} (tidy : m.Tidy d) (spares : Device.Spares owned d d')
    (sizes : ∀ id, m.Binds id → (d'.memory.buffers.get? id).map Buffer.size =
      (d.memory.buffers.get? id).map Buffer.size) : m.Tidy d' where
  sound := (spares.events tidy.sound).sound
  epoch := spares.epoch ▸ tidy.epoch
  issued := Bindings.issuedBy_later tidy.issued spares.memory
  distinct := tidy.distinct
  slot id slot := by
    rcases spares.slot id slot with same | ⟨new, used⟩
    · exact ⟨spares.old (tidy.slot id same).1, (tidy.slot id same).2⟩
    · exact ⟨used, fun binds => Nat.not_lt.2 new (tidy.old binds)⟩
  live current object b bound := by
    rw [Memory.live_iff, sizes b.id ⟨object, b, bound, rfl⟩, ← Memory.live_iff]
    exact tidy.live (spares.epoch ▸ current) object b bound
  binaries := tidy.binaries

theorem Tidy.calm {owned : BufferId → Prop} (tidy : m.Tidy d) (calm : Device.Calm owned d d') :
    m.Tidy d' :=
  tidy.later calm.toSpares fun id binds =>
    calm.sizes id (tidy.old binds) fun slot => (tidy.slot id slot).2 binds

/-- The work of another owner does no harm. -/
theorem Tidy.spared {owned : BufferId → Prop} (tidy : m.Tidy d) (spares : Device.Spares owned d d')
    (apart : ∀ id, m.Binds id → ¬ owned id) : m.Tidy d' :=
  tidy.later spares fun id binds => by
    rw [spares.buffers id (tidy.old binds) (apart id binds) fun slot => (tidy.slot id slot).2 binds]

private theorem Underway.later {owned : BufferId → Prop} (underway : m.Underway d) (tidy : m.Tidy d)
    (spares : Device.Spares owned d d') : m.Underway d' :=
  ⟨spares.epoch.trans underway.current, fun events listed e member =>
    (spares.events tidy.sound).knows e (underway.lists events listed e member)⟩

/-- A machine that holds the same buffers, and no other binaries. -/
theorem Tidy.machine (tidy : m.Tidy d) (epoch : m'.epoch = m.epoch)
    (bindings : ∀ object, m'.bindings.buffer? object = m.bindings.buffer? object)
    (binaries : ∀ slot ∈ m'.cache.slots, ∀ code, slot.binary = some code → code.epoch = m.epoch) :
    m'.Tidy d where
  sound := tidy.sound
  epoch := epoch ▸ tidy.epoch
  issued object b bound := tidy.issued object b (bindings object ▸ bound)
  distinct object other b b' bound bound' :=
    tidy.distinct object other b b' (bindings object ▸ bound) (bindings other ▸ bound')
  slot id slot := by
    refine ⟨(tidy.slot id slot).1, ?_⟩
    rintro ⟨object, b, bound, same⟩
    exact (tidy.slot id slot).2 ⟨object, b, bindings object ▸ bound, same⟩
  live current object b bound := tidy.live (current.trans epoch) object b (bindings object ▸ bound)
  binaries slot member code found := (binaries slot member code found).trans epoch.symm

end Machine

/-- No object travels with launches. -/
def Context.AtomicFree (c : Context) : Prop :=
  ∀ entry ∈ c.objects, entry.atomic = false

namespace Session

variable {s t : Session} {α : Type}

/-- A machine has changed no buffer but its own, and has bound no buffer that was there before. -/
structure Spares (before after : Session) : Prop where
  device : Device.Spares before.machine.Binds before.device after.device
  binds : ∀ id, after.machine.Binds id → before.machine.Binds id ∨ before.device.memory.nextId ≤ id

/-- What the machine holds stays good, a pass that is under way stays under way, and other owners are
spared. -/
structure Safe (before after : Session) : Prop where
  tidy : before.machine.Tidy before.device → after.machine.Tidy after.device
  spares : before.machine.Tidy before.device → Spares before after
  underway : before.machine.Tidy before.device → before.machine.Underway before.device →
    after.machine.Underway after.device
  atomicFree : after.context.AtomicFree ↔ before.context.AtomicFree
  kernels : after.device.kernels = before.device.kernels

/-- Without atomics, and with honest kernels, there are no errors about handles. -/
def Excused (s : Session) (e : MachineError) : Prop :=
  s.context.AtomicFree ∧ s.device.Honest → e.aboutHandle = false

instance : Op.Transition Spares where
  refl _ := ⟨Op.Transition.refl _, fun _ => .inl⟩
  trans head tail := by
    refine ⟨head.device.andThen tail.device fun id old binds => ?_, fun id binds => ?_⟩
    · rcases head.binds id binds with mine | new
      · exact mine
      · exact absurd old (Nat.not_lt.2 new)
    · rcases tail.binds id binds with earlier | new
      · exact head.binds id earlier
      · exact .inr (Nat.le_trans head.device.memory.nextId new)

instance : Op.Transition Safe where
  refl _ := ⟨fun tidy => tidy, fun _ => Op.Transition.refl _, fun _ underway => underway, Iff.rfl,
    rfl⟩
  trans head tail :=
    ⟨fun tidy => tail.tidy (head.tidy tidy),
      fun tidy => Op.Transition.trans (head.spares tidy) (tail.spares (head.tidy tidy)),
      fun tidy underway => tail.underway (head.tidy tidy) (head.underway tidy underway),
      tail.atomicFree.trans head.atomicFree, tail.kernels.trans head.kernels⟩

instance : Op.Hereditary Safe Excused where
  back safe excused fair := excused ⟨safe.atomicFree.2 fair.1, fair.2.later safe.kernels⟩

theorem Excused.later {e : MachineError} (excused : s.Excused e) (safe : Safe s t) : t.Excused e :=
  fun fair => excused ⟨safe.atomicFree.1 fair.1, fair.2.later safe.kernels.symm⟩

/-! ### Parts of the work -/

/-- Calm work of the device for the machine. -/
theorem safe_of_calm {device : Device} (calm : Device.Calm s.machine.Binds s.device device) :
    Safe s { s with device } where
  tidy tidy := tidy.calm calm
  spares _ := ⟨calm.toSpares, fun _ => .inl⟩
  underway tidy underway := underway.later tidy calm.toSpares
  atomicFree := Iff.rfl
  kernels := calm.kernels

/-- A change of the machine that is not about what it holds. -/
theorem safe_of_machine {m : Machine} (epoch : m.epoch = s.machine.epoch)
    (bindings : ∀ object, m.bindings.buffer? object = s.machine.bindings.buffer? object)
    (cache : m.cache = s.machine.cache)
    (lists : s.machine.Underway s.device →
      ∀ events ∈ m.lists.lists, ∀ e ∈ events, s.device.events.Knows e) :
    Safe s { s with machine := m } where
  tidy tidy := tidy.machine epoch bindings fun slot member => tidy.binaries slot (cache ▸ member)
  spares _ := by
    refine ⟨Op.Transition.refl _, ?_⟩
    rintro id ⟨object, b, bound, same⟩
    exact .inl ⟨object, b, bindings object ▸ bound, same⟩
  underway _ underway := ⟨underway.current.trans epoch.symm, lists underway⟩
  atomicFree := Iff.rfl
  kernels := rfl

/-- A change of the context keeps the holdings. -/
theorem safe_of_context {context : Context}
    (atomicFree : context.AtomicFree ↔ s.context.AtomicFree) : Safe s { s with context } :=
  ⟨fun tidy => tidy, fun _ => ⟨Op.Transition.refl _, fun _ => .inl⟩, fun _ underway => underway,
    atomicFree, rfl⟩

theorem serves_onDevice {op : DeviceOp α} {E : Device → DeviceError → Prop} {P : α → Device → Prop}
    (serves : Op.Serves op (Device.Calm s.machine.Binds) E P s.device)
    (excused : ∀ e, E s.device e → s.context.AtomicFree ∧ s.device.Honest → e.aboutHandle = false) :
    Op.Serves (onDevice op) Safe Excused (fun a t => P a t.device) s := by
  refine Op.serves_onPart (F := fun _ e => s.Excused e) (Op.serves_mapError serves ?_)
    (fun _ => safe_of_calm) (fun _ excused => excused) fun _ _ holds => holds
  intro e allowed fair
  rw [MachineError.aboutHandle_ofDevice]
  exact excused e allowed fair

theorem serves_plain {op : DeviceOp α} {P : α → Device → Prop}
    (serves : Op.Serves op (Device.Calm s.machine.Binds) Device.Plain P s.device) :
    Op.Serves (onDevice op) Safe Excused (fun a t => P a t.device) s :=
  serves_onDevice serves fun _ plain _ => plain

end Session
end Offload
