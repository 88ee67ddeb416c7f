import Offload.Proofs.Commands
import Offload.Proofs.Holdings

/-! Devices that are used by anyone in between. Whatever a device is asked for, as long as no buffer is
given back by name, machines keep what is theirs: most commands are calm, and after a reset nothing is
left that a machine takes for its own. -/
namespace Offload

namespace Device

variable {d d' : Device}

/-- No buffer was given back, the one of the atomics aside. -/
abbrev Tame : Device → Device → Prop :=
  Calm fun _ => True

private theorem tame_of_works (works : Works d d') (events : d.events.Steady d'.events) : Tame d d' :=
  calm_of_works works events fun _ foreign => absurd trivial foreign

instance : Tolerates [.free, .reset, .kernels] Tame where
  change {kind _ _} other change := by
    by_cases wrote : kind = .write
    · have works : Works _ _ := Tolerates.change (by simp [wrote]) change
      subst wrote
      cases change
      exact tame_of_works works (Op.Transition.refl _)
    · exact Tolerates.change (by simp_all) change

/-- The device runs what it ran before. -/
def SameKernels (before after : Device) : Prop :=
  after.kernels = before.kernels

instance : Op.Transition SameKernels where
  refl _ := rfl
  trans first second := Eq.trans second first

instance : Tolerates [.kernels] SameKernels where
  change other change := by
    cases change with
    | register | refuse => exact absurd (by decide) other
    | _ => rfl

instance survives_sameKernels : Survives SameKernels := survives_of_allowed (by decide)

end Device

namespace DeviceCommand

/-- The command gives no buffer back by name. -/
def Spares : DeviceCommand → Prop
  | deallocate _ => False
  | _ => True

/-- A command other than a reset or a change of the kernels. -/
def Ordinary : DeviceCommand → Prop
  | reset => False
  | registerKernel _ _ => False
  | failCompilationOf _ => False
  | _ => True

theorem tame (command : DeviceCommand) (spares : command.Spares) (ordinary : command.Ordinary) :
    Op.Moves command.run Device.Tame := by
  refine command.within ?_
  cases command <;> first | exact spares.elim | exact ordinary.elim | simp

end DeviceCommand

namespace Machine.Tidy

variable {m : Machine} {d d' : Device}

/-- A reset takes the device to an epoch that the machine does not know. -/
theorem reset (tidy : m.Tidy d) : m.Tidy (Device.reset d).state where
  sound := EventTable.sound_clear _
  epoch := Nat.le_succ_of_le tidy.epoch
  issued := Bindings.issuedBy_later tidy.issued (Memory.grows_clear _)
  distinct := tidy.distinct
  slot := by
    rintro id ⟨b, remembered, _⟩
    cases remembered
  live current := absurd current (Nat.ne_of_gt (Nat.lt_succ_of_le tidy.epoch))
  binaries := tidy.binaries

/-- Holdings have nothing to do with kernels. -/
theorem kernels (tidy : m.Tidy d) (events : d'.events = d.events) (memory : d'.memory = d.memory)
    (epoch : d'.epoch = d.epoch) (atomics : d'.atomics = d.atomics) : m.Tidy d' where
  sound := events ▸ tidy.sound
  epoch := epoch ▸ tidy.epoch
  issued := memory ▸ tidy.issued
  distinct := tidy.distinct
  slot := by
    rintro id ⟨b, remembered, same⟩
    exact memory ▸ tidy.slot id ⟨b, atomics ▸ remembered, same⟩
  live current := memory ▸ tidy.live (epoch ▸ current)
  binaries := tidy.binaries

/-- Other users of the device do the machine no harm. -/
theorem command (tidy : m.Tidy d) (command : DeviceCommand) (spares : command.Spares) :
    m.Tidy (command.run d).state := by
  have calm (ordinary : command.Ordinary) : m.Tidy (command.run d).state :=
    tidy.calm (command.tame spares ordinary d)
  cases command with
  | reset => exact tidy.reset
  | registerKernel name kernel => exact tidy.kernels rfl rfl rfl rfl
  | failCompilationOf name => exact tidy.kernels rfl rfl rfl rfl
  | _ => exact calm trivial

end Machine.Tidy
end Offload
