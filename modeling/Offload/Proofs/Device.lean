import Offload.Proofs.DeviceChanges

/-! What work leaves alone on a device. Every operation but a reset keeps the kernels and the epoch
and lets the memory grow only; a reset keeps the kernels, and the memory still only grows. The buffers
themselves are the business of an allocation, a deallocation and a write of atomics: everything else
keeps them, and the buffer that atomics are written to. -/
namespace Offload.Device

/-- The memory has only grown. -/
def Grows (before after : Device) : Prop :=
  before.memory.Grows after.memory

instance : Op.Transition Grows where
  refl d := Op.Transition.refl d.memory
  trans first second := Op.Transition.trans (R := Memory.Grows) first second

instance : Tolerates [] Grows where
  change _ change := by
    cases change with
    | add | renew => exact Memory.grows_addBuffer _ _
    | free ran | vacate _ ran => exact Memory.grows_free ran
    | write ran => exact (Memory.overwrites_write ran).grows
    | reset => exact Memory.grows_clear _
    | _ => exact Op.Transition.refl (R := Memory.Grows) _

/-- The device is the same as far as compilations can tell, and its memory has only grown. -/
structure Keeps (before after : Device) : Prop where
  info : after.info = before.info
  kernels : after.kernels = before.kernels
  failing : after.failing = before.failing
  epoch : after.epoch = before.epoch
  memory : before.memory.Grows after.memory

instance : Op.Transition Keeps where
  refl _ := ⟨rfl, rfl, rfl, rfl, Op.Transition.refl _⟩
  trans first second :=
    ⟨second.info.trans first.info, second.kernels.trans first.kernels,
      second.failing.trans first.failing, second.epoch.trans first.epoch,
      Op.Transition.trans first.memory second.memory⟩

/-- No buffer comes or goes either. -/
structure Works (before after : Device) : Prop extends Keeps before after where
  atomics : after.atomics = before.atomics
  overwrites : before.memory.Overwrites after.memory

instance : Op.Transition Works where
  refl _ := ⟨Op.Transition.refl _, rfl, Op.Transition.refl _⟩
  trans first second :=
    ⟨Op.Transition.trans first.toKeeps second.toKeeps, second.atomics.trans first.atomics,
      Op.Transition.trans first.overwrites second.overwrites⟩

/-- A device that differs in its books only. -/
theorem works_of_same (info : after.info = before.info) (kernels : after.kernels = before.kernels)
    (failing : after.failing = before.failing) (epoch : after.epoch = before.epoch)
    (atomics : after.atomics = before.atomics) (memory : after.memory = before.memory) :
    Works before after :=
  ⟨⟨info, kernels, failing, epoch, memory ▸ Op.Transition.refl _⟩, atomics,
    memory ▸ Op.Transition.refl _⟩

theorem works_count (change : DeviceCounters → DeviceCounters) : Op.Moves (count change) Works :=
  Op.moves_modify fun _ => works_of_same rfl rfl rfl rfl rfl rfl

instance : Tolerates [.add, .free, .vacate, .renew, .reset, .kernels] Works where
  change other change := by
    cases change with
    | add | free | vacate | renew | reset | register | refuse => exact absurd (by decide) other
    | write ran =>
      have overwrites := Memory.overwrites_write ran
      exact ⟨⟨rfl, rfl, rfl, rfl, overwrites.grows⟩, rfl, overwrites⟩
    | _ => exact works_of_same rfl rfl rfl rfl rfl rfl

instance : Tolerates [.reset, .kernels] Keeps where
  change other change := by
    have grows : Grows _ _ := Tolerates.change (by simp) change
    cases change with
    | reset | register | refuse => exact absurd (by decide) other
    | _ => exact ⟨rfl, rfl, rfl, rfl, grows⟩

instance : Survives Keeps := survives_of_allowed (by decide)

theorem yields_writeBuffer {id : BufferId} {data : Bytes} {d d' : Device} :
    Op.Yields (writeBuffer id data) d () d' ↔
      ∃ memory, d.memory.write id data = .ok memory ∧ d' = { d with memory } := by
  rw [writeBuffer, onMemory, Op.yields_step]
  rcases d.memory.write id data with e | memory
  · simp [Except.map]
  · simp [Except.map, eq_comm]

end Offload.Device
