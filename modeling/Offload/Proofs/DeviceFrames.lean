import Offload.Proofs.Chronicles
import Offload.Proofs.Pool

/-! Relations of sessions that look at the device. What the frames of a machine and a relation of devices
have in common holds from one instruction to the next; so it survives every command, if it survives a
compilation, the notice of a reset and the changes of what is compiled. And what it keeps holds of every
machine of a history, if the devices go on by that relation whoever uses them. -/
namespace Offload

/-- A relation that survives everything a machine does, compilations aside, as long as its device goes
from one state to the next by `D`. -/
structure RespectedWith (D : Device → Device → Prop) (R : Session → Session → Prop) : Prop where
  frame : ∀ s t, Session.Keeps s t → D s.device t.device → R s t
  sync : Op.Moves Machine.syncEpoch R
  forget : Op.Moves Machine.forgetBuffers R
  clear : Op.Moves Machine.clearCode R
  schedule : ∀ schedule, Op.Moves (Machine.setSchedule schedule) R

namespace RespectedWith

variable {D : Device → Device → Prop} {R : Session → Session → Prop} {α : Type}
  (respected : RespectedWith D R)
include respected

private theorem moves {op : MachineOp α} (keeps : Op.Moves op Session.Keeps)
    (via : Op.Moves op (Session.Via D)) : Op.Moves op R :=
  fun s => respected.frame _ _ (keeps s) (via s)

variable [Op.Transition D]

private theorem modifyMachine {change : Machine → Machine}
    (keeps : Op.Moves (Session.modifyMachine change) Session.Keeps) :
    Op.Moves (Session.modifyMachine change) R :=
  respected.moves keeps (Machine.via_modifyMachine _)

private theorem concludePass (warmup : Bool) (result : Except MachineError (Option EventId)) :
    Op.Moves (Machine.concludePass warmup result) R :=
  respected.moves (Machine.moves_concludePass _ _) (Machine.moves_concludePass _ _)

private theorem endPass (survives : Device.Survives D) (warmup : Bool) : Op.Moves (Machine.endPass warmup) R :=
  respected.moves (Machine.moves_endPass _) (Machine.moves_endPass _)

variable [Op.Transition R]

private theorem startPass : Op.Moves Machine.startPass R :=
  Op.moves_bind (respected.modifyMachine Machine.moves_resetAll) fun _ => respected.sync

section Passes

variable (survives : Device.Survives D) (compiles : ∀ l, Op.Moves (Machine.compile l) R)
include survives
include compiles

private theorem stepEntry (warmup : Bool) (last : Option EventId) (entry : Entry) :
    Op.Moves (Machine.stepEntry warmup last entry) R := by
  refine Machine.moves_stepEntry (fun _ => Machine.moves_warmInstruction _ _ fun l _ => compiles l) fun _ => ?_
  obtain ⟨offset, i⟩ := entry
  by_cases launches : ∃ l, i = .launch l
  · obtain ⟨l, rfl⟩ := launches
    refine Op.moves_bind (compiles l) fun _ => Op.moves_map ?_
    exact respected.moves (Machine.moves_dispatch l) (Machine.moves_dispatch l)
  · refine respected.moves ?_ (Session.Tolerant.runInstruction last offset i)
    exact Machine.survives_runInstruction (fun _ _ => id) last offset i
      fun l same => absurd ⟨l, same⟩ launches

private theorem pass (warmup : Bool) : Op.Moves (Machine.pass warmup) R :=
  Op.moves_bind respected.startPass fun _ => Op.moves_bind Op.moves_get fun _ =>
    Machine.moves_runEntries (respected.endPass survives _)
      (fun _ _ _ => respected.stepEntry survives compiles _ _ _) _

private theorem execute (mode : Mode) : Op.Moves (Machine.execute mode) R :=
  Machine.moves_execute (respected.pass survives compiles) respected.concludePass mode

/-- It survives whatever a machine is asked for, in whole or in part. -/
theorem command (command : MachineCommand) : Op.Moves command.run R := by
  have finished (finished : Bool) :
      Op.Moves (Session.modifyMachine fun m => { m with finishedWarmup := finished }) R :=
    respected.modifyMachine (Machine.moves_setFinished finished)
  cases command with
  | execute mode => exact Op.moves_map (respected.execute survives compiles mode)
  | warmup =>
    refine Op.moves_bind (finished false) fun _ => ?_
    exact Op.moves_bind (respected.execute survives compiles .warmup) fun _ => finished true
  | freeDeviceMemory =>
    exact Op.moves_map
      (respected.moves Machine.keeps_freeDeviceMemory Session.Tolerant.freeDeviceMemory)
  | forgetBuffers => exact Op.moves_map respected.forget
  | setConfig config => exact respected.moves (Session.keeps_setConfig config) (Session.Tolerant.setConfig config)
  | setSchedule schedule => exact respected.schedule schedule
  | setProfiler profiler => exact respected.modifyMachine (Session.keeps_setProfiler profiler)
  | clearCode => exact respected.clear
  | startPass => exact respected.startPass
  | perform warm last index =>
    exact MachineCommand.moves_performAt index (respected.stepEntry survives compiles _ _)
  | endPass warm => exact Op.moves_map (respected.endPass survives _)
  | concludePass warm result => exact respected.concludePass _ _
  | setFinished done => exact finished done
  | dealloc object =>
    exact Op.moves_map (respected.moves (Machine.keeps_dealloc _) (Machine.moves_dealloc _))

end Passes
end RespectedWith

/-- Whoever uses a device, and for whatever, it goes on by the relation. -/
structure Device.Everywhere (R : Device → Device → Prop) : Prop extends Device.Survives R where
  loads : Op.Moves Device.ensureLoaded R
  used : ∀ command : DeviceCommand, Op.Moves command.run R

theorem Device.everywhere_of_tolerates {R : Device → Device → Prop} [Op.Transition R] [Device.Tolerates [] R] :
    Device.Everywhere R where
  toSurvives := Device.survives_of_allowed (by decide)
  loads := Device.moves_within Device.only_ensureLoaded (by decide)
  used command := command.within (by simp)

namespace Workspace

variable {w before after : Workspace} {index : Nat} {R : Device → Device → Prop} [Op.Transition R]
  {P : Session → Prop}

/-- Another context with these tasks and a device that has gone on make no difference. -/
theorem every_besides {context : Context} {device device' : Device}
    (elsewhere : ∀ s context device, P s → context.tasks = s.context.tasks → R s.device device →
      P ⟨context, device, s.machine⟩)
    (every : w.Every fun _ => P) (tasks : context.tasks = w.context.tasks)
    (found : w.devices[index]? = some device) (related : R device device') :
    Every (fun _ => P) { w with context, devices := w.devices.set index device' } := by
  intro taken member other present
  rcases Pool.getElem?_set_some present with ⟨same, rfl⟩ | ⟨_, present⟩
  · exact elsewhere _ _ _ (every taken member device (same ▸ found)) tasks related
  · exact elsewhere _ _ _ (every taken member other present) tasks (Op.Transition.refl _)

/-- What holds of new machines, survives every command, and survives what others do to the device. -/
theorem sessions_besides (everywhere : Device.Everywhere R)
    (made : ∀ program config before (m : Machine) site, Op.Yields (Machine.create program config) before m site →
      P ⟨site.1, site.2, m⟩)
    (command : ∀ (c : MachineCommand) (s : Session), P s → P (c.run s).state)
    (elsewhere : ∀ s context device, P s → context.tasks = s.context.tasks → R s.device device →
      P ⟨context, device, s.machine⟩)
    (reachable : w.Reachable) : w.Every fun _ => P := by
  induction reachable with
  | start context devices unused => exact fun _ member => nomatch member
  | @step before after _ step every =>
    cases step with
    | build device program config =>
      unfold build
      rcases found : before.devices[device]? with _ | d
      · intro taken member
        rcases List.mem_append.1 member with old | new
        · exact every taken old
        · cases List.mem_singleton.1 new
      have kept := Machine.siteKeeps_create program config (before.context, d)
      have related : R _ _ := Pool.via_create everywhere.loads program config (before.context, d)
      have others := every_besides elsewhere every kept.tasks found related
      rcases built : Machine.create program config (before.context, d) with ⟨e | m, ⟨context, d'⟩, log⟩ <;>
        rw [built] at others <;> simp only [built] <;> intro taken member <;>
          rcases List.mem_append.1 member with old | new
      · exact others taken old
      · cases List.mem_singleton.1 new
      · exact others taken old
      · cases List.mem_singleton.1 new
        intro other present
        change (before.devices.set device d')[device]? = some other at present
        rw [List.getElem?_set_self (List.getElem?_eq_some_iff.1 found).1] at present
        cases present
        exact made program config (before.context, d) m (context, d') ⟨by rw [built], by rw [built]⟩
    | machine seat c =>
      rcases present : before.session? seat with _ | ⟨index, s⟩
      · rw [onMachine_absent present]
        exact every
      rw [onMachine_present present]
      obtain ⟨m, device, seated, found, rfl⟩ := session?_eq_some.1 present
      have tasks := (continues_command c ⟨before.context, device, m⟩).tasks
      have others := every_besides elsewhere every tasks found
        (c.via everywhere.toSurvives ⟨before.context, device, m⟩)
      intro taken member other present
      rcases List.mem_or_eq_of_mem_set member with old | new
      · exact others taken old other present
      · cases new
        change (before.devices.set index _)[index]? = some other at present
        rw [List.getElem?_set_self (List.getElem?_eq_some_iff.1 found).1] at present
        cases present
        exact command c _ (every ⟨index, m⟩ (List.mem_of_getElem? seated) device found)
    | device index c =>
      rcases present : before.devices[index]? with _ | device
      · rw [onDevice_absent present]
        exact every
      · rw [onDevice_present present]
        exact every_besides elsewhere every rfl present (everywhere.used c device)
    | setLimit limit =>
      exact fun taken member device found =>
        elsewhere _ _ _ (every taken member device found) rfl (Op.Transition.refl _)
    | setObject index object =>
      exact fun taken member device found =>
        elsewhere _ _ _ (every taken member device found) rfl (Op.Transition.refl _)

end Workspace
end Offload
