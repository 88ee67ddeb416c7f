import Offload.Device.Basic
import Offload.Machine.Error
import Offload.Text.Quoted

/-!
The devices that plans choose from. A device keeps the index it was registered under.
-/
namespace Offload

structure Registry where
  devices : List Device := []
  defaultIndex : Nat := 0

namespace Registry

/-- Add a device; the result is its index. -/
def register (device : Device) : Op MachineError Registry Nat := do
  let r ← Op.get
  let index := r.devices.length
  if device.info.index = index then pure ()
  else
    Op.emit ⟨.warn, some "device reports a different index than its registry slot",
      [("device", device.info.text), ("index", index)]⟩
  Op.emit ⟨.debug, some "device_registered", [("device", device.info.text), ("index", index)]⟩
  Op.modify fun r => { r with devices := r.devices ++ [device] }
  pure index

def device (r : Registry) (index : Nat) : Except MachineError Device :=
  match r.devices[index]? with
  | some device => .ok device
  | none => .error (.unknownDevice index)

def setDefault (r : Registry) (index : Nat) : Except MachineError Registry :=
  if index < r.devices.length then .ok { r with defaultIndex := index } else .error (.unknownDevice index)

/-- The registry on one line. -/
def text (r : Registry) : String :=
  let names := ", ".intercalate (r.devices.map fun d => Text.quoted d.info.text)
  s!"Runtime \x7b devices: [{names}], default_device: {r.defaultIndex} \x7d"

end Registry
end Offload
