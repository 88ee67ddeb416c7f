import Offload.Proofs.Pool

/-! What a device was asked for since it was last reset, by machines or by anyone else. Whatever comes about
from new devices, every device has such a history, and it goes on with each operation, a failed one
included. -/
namespace Offload

/-- A command, and the device as it found it. -/
structure DeviceStep where
  before : Device
  command : DeviceCommand

/-- The commands since the last reset, the first of them first, after one more. -/
def DeviceCommand.since (d : Device) (steps : List DeviceStep) : DeviceCommand → List DeviceStep
  | reset => []
  | command => steps ++ [⟨d, command⟩]

namespace Device

variable {d : Device} {steps : List DeviceStep} {α : Type}

/-- What becomes of a device, with the commands since its last reset. -/
inductive Used : Device → List DeviceStep → Prop where
  | new (info : DeviceInfo) (deferred : Bool) : Used (create info deferred) []
  | step {d : Device} {steps : List DeviceStep} (used : Used d steps) (command : DeviceCommand) :
      Used (command.run d).state (command.since d steps)

/-- A device that has a history keeps having one. -/
def Traced (before after : Device) : Prop :=
  (∃ steps, Used before steps) → ∃ steps, Used after steps

instance : Op.Transition Traced where
  refl _ := id
  trans first second := fun used => second (first used)

private theorem traced_run (command : DeviceCommand) (d : Device) : Traced d (command.run d).state := by
  rintro ⟨steps, used⟩
  exact ⟨_, used.step command⟩

/-- An operation is traced if there is a command for it. -/
theorem traced_of_command {op : DeviceOp α} (command : DeviceCommand)
    (same : command.run = (fun _ => ()) <$> op) : Op.Moves op Traced := by
  intro d
  have traced := traced_run command d
  rw [same, Op.map_state] at traced
  exact traced

private theorem traced_copyOut {op : CopyOut α} (command : HostObject → DeviceCommand)
    (same : ∀ object, (command object).run = (fun _ => ()) <$> DeviceCommand.copyOut object op) :
    Op.Moves op fun x y => Traced x.2 y.2 := by
  rintro ⟨object, d⟩
  have traced := traced_run (command object) d
  rw [same, Op.map_state] at traced
  exact traced

instance survives_traced : Survives Traced where
  allocate sizes := traced_of_command (.allocate sizes) rfl
  deallocate buffer := traced_of_command (.deallocate buffer) rfl
  streamIn object buffer range wait := traced_of_command (.streamIn object buffer range wait) rfl
  streamOut buffer range wait :=
    traced_copyOut (fun object => .streamOut object buffer range wait false) fun _ => rfl
  streamOutBlocking buffer range wait :=
    traced_copyOut (fun object => .streamOut object buffer range wait true) fun _ => rfl
  installCode request := traced_of_command (.installCode request) rfl
  writeAtomics values wait := traced_of_command (.writeAtomics values wait) rfl
  launch code frame atomics grid offset wait :=
    traced_of_command (.launch code frame atomics grid offset wait) rfl
  enqueueMarker wait := traced_of_command (.enqueueMarker wait) rfl
  waitEvents events := traced_run (.waitEvents events)
  resolveEvent _ := Op.moves_bind Op.moves_get fun _ => Op.moves_ofExcept _
  flush := traced_run .flush

end Device

/-- Every device of a pool has a history. -/
theorem Pool.used_of_reachable {permits : DeviceCommand → Prop} {p : Pool} (reachable : p.Reachable permits) :
    ∀ d ∈ p.devices, ∃ steps, Device.Used d steps :=
  devices_of_reachable Device.survives_traced (Device.traced_run .load) (fun _ _ traced => traced)
    (fun info deferred => ⟨[], .new info deferred⟩) (fun command _ d used => Device.traced_run command d used)
    reachable

end Offload
