import Offload.Proofs.History

/-! Whatever a machine is asked for. A relation that tolerates the changes which the work of a machine is made of
tolerates its passes, and every command if it tolerates other settings too. That the devices of two sessions are
related is such a relation, once it survives every operation that a machine asks its device for. -/
namespace Offload

/-- A command does what it is asked for, and the rest is tolerated anyway. -/
theorem MachineCommand.moves {D : Device → Device → Prop} {R : Session → Session → Prop} [Op.Transition R]
    [Session.ToleratesWork D R] [Device.SurvivesLaunches D] [Session.ToleratesLists R] [Session.ToleratesCode R]
    (command : MachineCommand) (frees : ∀ object, Op.Moves (Machine.dealloc object) R)
    (forget : Op.Moves Machine.forgetBuffers R)
    (settles : ∀ (s : Session) (schedule : GridSchedule) (profiler : Profiler),
      R s { s with machine := { s.machine with schedule, profiler } })
    (configures : ∀ config, command = .setConfig config → Op.Moves (Machine.setConfig config) R)
    (executes : ∀ mode, command = .execute mode ∨ command = .warmup → Op.Moves (Machine.execute mode) R)
    (performs : ∀ warm last index, command = .perform warm last index →
      Op.Moves (MachineCommand.performAt warm last index) R) : Op.Moves command.run R := by
  cases command with
  | execute mode => exact Op.moves_map (executes mode (.inl rfl))
  | warmup => exact Machine.moves_warmup (executes _ (.inr rfl))
  | freeDeviceMemory => exact Op.moves_map (Op.moves_bind Op.moves_get fun _ => Machine.moves_deallocAll frees _)
  | forgetBuffers => exact Op.moves_map forget
  | setConfig config => exact configures config rfl
  | setSchedule schedule =>
    exact Machine.moves_setSchedule (fun _ => Machine.moves_setCache _) fun s => settles s schedule s.machine.profiler
  | setProfiler profiler => exact Op.moves_modify fun s => settles s s.machine.schedule profiler
  | clearCode => exact Machine.moves_clearCode
  | startPass => exact Machine.moves_startPass (Machine.moves_syncEpoch forget)
  | perform warm last index => exact performs warm last index rfl
  | endPass warm => exact Op.moves_map (Machine.moves_endPass warm)
  | concludePass warm result => exact Machine.moves_concludePass warm result
  | setFinished finished => exact Machine.moves_setFinished finished
  | dealloc object => exact Op.moves_map (frees object)

/-- The entry of the program that is asked for, if there is one. -/
theorem MachineCommand.moves_performAt {R : Session → Session → Prop} [Op.Transition R] {warm : Bool}
    {last : Option EventId} (index : Nat) (step : ∀ entry, Op.Moves (Machine.stepEntry warm last entry) R) :
    Op.Moves (MachineCommand.performAt warm last index) R := by
  refine Op.moves_bind Op.moves_get fun s => ?_
  cases s.machine.program.scan.entries[index]? with
  | none => exact Op.moves_pure _
  | some entry => exact Op.moves_map (step entry)

namespace Session

/-- The relation tolerates other settings, and the event lists that come with them. -/
class ToleratesSettings (R : Session → Session → Prop) : Prop where
  settings : ∀ (s : Session) (config : Config) (lists : EventLists) (schedule : GridSchedule) (profiler : Profiler),
    R s { s with machine := { s.machine with config, lists, schedule, profiler } }
  limit : ∀ (s : Session) (limit : Option Nat), R s { s with context.memory := s.context.memory.setLimit limit }

namespace Tolerant
open Machine (Arrives)

variable {D : Device → Device → Prop} {R : Session → Session → Prop} [tolerant : Tolerant D R]
  [transition : Op.Transition R]
include tolerant transition

/-! ### Passes -/

private theorem syncEpoch : Op.Moves Machine.syncEpoch R := Machine.moves_syncEpoch Machine.moves_forgetBuffers

/-- The start of a pass is made of changes that are tolerated. -/
theorem startPass : Op.Moves Machine.startPass R := Machine.moves_startPass syncEpoch

section Passes

variable [survives : Device.Survives D]
include survives

/-- A compilation is made of changes that are tolerated. -/
theorem compile (l : Launch) : Op.Moves (Machine.compile l) R := Machine.moves_compile Machine.moves_forgetBuffers l

/-- Each instruction of a run is made of changes that are tolerated. -/
theorem runInstruction (last : Option EventId) (offset : Nat) (i : Instruction) :
    Op.Moves (Machine.runInstruction last offset i) R :=
  Machine.moves_runInstruction last offset i (fun _ _ _ => Machine.moves_alloc _ _)
    (fun _ _ => Machine.moves_dealloc _)
    (fun _ _ _ _ => Machine.moves_transferIn (fun _ => Machine.moves_modifyBinding _ _) _) fun l _ => compile l

/-- Each entry is made of changes that are tolerated, warmed or run. -/
theorem stepEntry (warmup : Bool) (last : Option EventId) (entry : Entry) :
    Op.Moves (Machine.stepEntry warmup last entry) R :=
  Machine.moves_stepEntry (fun _ => Machine.moves_warmInstruction _ _ fun l _ => compile l)
    fun _ => runInstruction _ _ _

/-- Wherever a pass has arrived, only tolerated changes have led there. -/
theorem arrives {s t : Session} {done : List Entry} {last : Option EventId} (arrives : Arrives s done last t) :
    R s t :=
  (Op.moves_bind startPass fun _ => Machine.moves_runPrefix (fun _ _ _ => stepEntry _ _ _) _).yields arrives

private theorem pass (warmup : Bool) : Op.Moves (Machine.pass warmup) R :=
  Op.moves_bind startPass fun _ => Op.moves_bind Op.moves_get fun _ =>
    Machine.moves_runEntries (Machine.moves_endPass _) (fun _ _ _ => stepEntry _ _ _) _

/-- An execution is tolerated as a whole. -/
theorem execute (mode : Mode) : Op.Moves (Machine.execute mode) R :=
  Machine.moves_execute pass Machine.moves_concludePass mode

/-- What frees all memory releases buffer after buffer. -/
theorem freeDeviceMemory : Op.Moves Machine.freeDeviceMemory R :=
  Op.moves_bind Op.moves_get fun _ => Machine.moves_deallocAll Machine.moves_dealloc _

end Passes

/-! ### Settings and commands -/

section Settings

variable [settable : ToleratesSettings R]
include settable

omit tolerant in
/-- A configuration brings other settings, a limit, and new lists if they are to hold more or less. -/
theorem setConfig (config : Config) : Op.Moves (Machine.setConfig config) R := by
  refine Op.moves_bind (Op.moves_modify fun s => ?_) fun _ => ?_
  · dsimp only
    split
    · exact ToleratesSettings.settings s config s.machine.lists s.machine.schedule s.machine.profiler
    · exact ToleratesSettings.settings s config _ s.machine.schedule s.machine.profiler
  · cases config.memoryLimit with
    | none => exact Op.moves_pure _
    | some limit => exact Op.moves_modify fun s => ToleratesSettings.limit s _

variable [Device.Survives D]

/-- Whatever a machine is asked for is tolerated. -/
theorem command (command : MachineCommand) : Op.Moves command.run R :=
  command.moves Machine.moves_dealloc Machine.moves_forgetBuffers
    (fun s => ToleratesSettings.settings s s.machine.config s.machine.lists) (fun config _ => setConfig config)
    (fun mode _ => execute mode) fun _ _ index _ => MachineCommand.moves_performAt index (stepEntry _ _)

end Settings

end Tolerant

/-! ### The devices of sessions -/

/-- The devices of the sessions are related. -/
def Via (D : Device → Device → Prop) (s t : Session) : Prop :=
  D s.device t.device

variable {D : Device → Device → Prop} [Op.Transition D]

instance : Op.Transition (Via D) where
  refl s := Op.Transition.refl s.device
  trans first second := Op.Transition.trans (R := D) first second

instance : Tolerant D (Via D) where
  device _ _ related := related
  passes s _ _ _ := Op.Transition.refl s.device
  timer s _ _ := Op.Transition.refl s.device
  kernelTime s _ _ := Op.Transition.refl s.device
  object s _ _ := Op.Transition.refl s.device
  metric s _ _ _ := Op.Transition.refl s.device
  lists s _ _ := Op.Transition.refl s.device
  code s _ _ _ := Op.Transition.refl s.device
  binding s _ _ := Op.Transition.refl s.device
  forget s := Op.Transition.refl s.device
  charge s _ := Op.Transition.refl s.device
  discharge s _ := Op.Transition.refl s.device

instance : ToleratesSettings (Via D) where
  settings s _ _ _ _ := Op.Transition.refl s.device
  limit s _ := Op.Transition.refl s.device

end Session

namespace Machine

variable {D : Device → Device → Prop} [Op.Transition D]

theorem via_modifyMachine (change : Machine → Machine) : Op.Moves (Session.modifyMachine change) (Session.Via D) :=
  Op.moves_modify fun s => Op.Transition.refl s.device

/-- The device of a pass that has arrived somewhere is related to the one it started on. -/
theorem via_arrives (survives : Device.Survives D) {s t : Session} {done : List Entry} {last : Option EventId}
    (arrives : Arrives s done last t) : D s.device t.device :=
  Session.Tolerant.arrives (R := Session.Via D) arrives

end Machine

/-- Whatever a machine is asked for, in whole or in part. -/
theorem MachineCommand.via {D : Device → Device → Prop} [Op.Transition D] (survives : Device.Survives D)
    (command : MachineCommand) : Op.Moves command.run (Session.Via D) :=
  Session.Tolerant.command command

end Offload
