import Offload.Proofs.History

/-! Who touches the event lists. Consumers, added dependencies and the start of a pass do, and nothing
else does; and the lists always have the capacity that the settings name. -/
namespace Offload

/-- Event lists and settings are the same. -/
structure Session.SameLists (before after : Session) : Prop where
  lists : after.machine.lists = before.machine.lists
  config : after.machine.config = before.machine.config

namespace Machine
open Session (SameLists)

variable {s t : Session}

instance : Op.Transition SameLists where
  refl _ := ⟨rfl, rfl⟩
  trans first second := ⟨second.lists.trans first.lists, second.config.trans first.config⟩

instance : Session.ToleratesWork Device.Any SameLists where
  device _ _ _ := ⟨rfl, rfl⟩
  passes _ _ _ _ := ⟨rfl, rfl⟩
  timer _ _ _ := ⟨rfl, rfl⟩
  kernelTime _ _ _ := ⟨rfl, rfl⟩

instance : Session.ToleratesCopies SameLists where
  object _ _ _ := ⟨rfl, rfl⟩
  metric _ _ _ _ := ⟨rfl, rfl⟩

instance : Session.ToleratesCode SameLists where
  code _ _ _ _ := ⟨rfl, rfl⟩

instance : Session.ToleratesBindings SameLists where
  binding _ _ _ := ⟨rfl, rfl⟩
  forget _ := ⟨rfl, rfl⟩
  charge _ _ := ⟨rfl, rfl⟩
  discharge _ _ := ⟨rfl, rfl⟩

theorem same_syncEpoch : Op.Moves syncEpoch SameLists := moves_syncEpoch moves_forgetBuffers

theorem same_compile (l : Launch) : Op.Moves (compile l) SameLists := moves_compile moves_forgetBuffers l

/-! ### The capacity of the lists -/

/-- Lists that fit the settings still do. -/
def StaysSized (before after : Session) : Prop :=
  before.machine.Sized → after.machine.Sized

instance : Op.Transition StaysSized where
  refl _ := id
  trans first second := fun sized => second (first sized)

private theorem staysSized_of_same {α : Type} {op : MachineOp α} (h : Op.Moves op SameLists) :
    Op.Moves op StaysSized := by
  intro s sized
  unfold Sized
  rw [(h s).lists, (h s).config]
  exact sized

private theorem respected_staysSized : Respected StaysSized where
  frame _ _ kept := kept.frames.sized
  sync := staysSized_of_same same_syncEpoch
  forget := staysSized_of_same moves_forgetBuffers
  clear := staysSized_of_same moves_clearCode
  schedule _ := staysSized_of_same (moves_setSchedule (fun _ => moves_setCache _) fun _ => ⟨rfl, rfl⟩)

private theorem sized_command (command : MachineCommand) (sized : s.machine.Sized) :
    (command.run s).state.machine.Sized :=
  respected_staysSized.command command s (fun l _ => staysSized_of_same (same_compile l)) sized

end Machine

namespace Workspace

variable {w : Workspace} {seat index : Nat} {s : Session}

theorem sized_of_reachable (reachable : w.Reachable) (present : w.session? seat = some (index, s)) :
    s.machine.Sized :=
  machines_of_reachable (fun _ _ _ fresh => fresh.sized) (fun command _ => Machine.sized_command command)
    reachable present

end Workspace
end Offload
