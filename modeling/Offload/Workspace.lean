import Offload.Machine.Pass

/-!
Several machines on one context, each on one of several devices. Work of one machine changes that
machine, its device and the context, and no other machine.
-/
namespace Offload

/-- A machine and the index of its device. -/
structure Seat where
  device : Nat
  machine : Machine

structure Workspace where
  context : Context
  devices : List Device := []
  /-- The machines, or nothing where one could not be built. -/
  seats : List (Option Seat) := []

namespace Workspace

/-- What a machine works on, if there is one at that seat. -/
def session? (w : Workspace) (seat : Nat) : Option (Nat × Session) := do
  let entry ← w.seats[seat]?
  let s ← entry
  let device ← w.devices[s.device]?
  pure (s.device, ⟨w.context, device, s.machine⟩)

/-- Put back what a machine has worked on. -/
def update (w : Workspace) (seat device : Nat) (s : Session) : Workspace :=
  { context := s.context
    devices := w.devices.set device s.device
    seats := w.seats.set seat (some ⟨device, s.machine⟩) }

/-- Work of the machine at a seat; none when there is no machine. -/
def onMachine {α : Type} (seat : Nat) (op : MachineOp α) : Op MachineError Workspace (Option α) :=
  fun w =>
    match w.session? seat with
    | none => ⟨.ok none, w, []⟩
    | some (device, s) =>
      match op s with
      | ⟨.ok a, s, log⟩ => ⟨.ok (some a), w.update seat device s, log⟩
      | ⟨.error e, s, log⟩ => ⟨.error e, w.update seat device s, log⟩

/-- Work of a device on its own; none when there is no such device. -/
def onDevice {α : Type} (index : Nat) (op : DeviceOp α) : Op DeviceError Workspace (Option α) :=
  fun w =>
    match w.devices[index]? with
    | none => ⟨.ok none, w, []⟩
    | some device =>
      match op device with
      | ⟨.ok a, device, log⟩ => ⟨.ok (some a), { w with devices := w.devices.set index device }, log⟩
      | ⟨.error e, device, log⟩ => ⟨.error e, { w with devices := w.devices.set index device }, log⟩

/-- Build a machine on a device and give it the next seat; the seat stays empty when that fails. -/
def build (index : Nat) (program : Bytes) (config : Config) : Op MachineError Workspace Unit :=
  fun w =>
    match w.devices[index]? with
    | none => ⟨.error (.unknownDevice index), { w with seats := w.seats ++ [none] }, []⟩
    | some device =>
      match Machine.create program config (w.context, device) with
      | ⟨.ok machine, (context, device), log⟩ =>
        ⟨.ok (), ⟨context, w.devices.set index device, w.seats ++ [some ⟨index, machine⟩]⟩, log⟩
      | ⟨.error e, (context, device), log⟩ =>
        ⟨.error e, ⟨context, w.devices.set index device, w.seats ++ [none]⟩, log⟩

end Workspace
end Offload
