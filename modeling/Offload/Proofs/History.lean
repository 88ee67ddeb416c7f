import Offload.Workspace
import Offload.Proofs.Creation
import Offload.Proofs.Passes

/-! Histories of a workspace: machines are built, work in any order, on devices of their own or on
shared ones, and devices are used and reset by anyone in between. The parts of a pass are steps too, so
that another machine or a reset may come between any two instructions. -/
namespace Offload

/-- Something that a device is asked for. -/
inductive DeviceCommand where
  | reset
  | load
  | allocate (sizes : List Nat)
  | deallocate (buffer : DeviceBuffer)
  | streamIn (object : HostObject) (buffer : DeviceBuffer) (range : HostRange) (wait : List EventId)
  | streamOut (object : HostObject) (buffer : DeviceBuffer) (range : HostRange) (wait : List EventId)
      (blocking : Bool)
  | installCode (request : CompileRequest)
  | writeAtomics (values : List Int32) (wait : List EventId)
  | launch (code : Binary) (frame : List KernelArg) (atomics : Option DeviceBuffer) (grid : Grid)
      (globalOffset : Nat) (wait : List EventId)
  | enqueueMarker (wait : List EventId)
  | waitEvents (events : List EventId)
  | completeEvent (event : EventId)
  | flush
  | registerKernel (name : String) (kernel : Kernel)
  | failCompilationOf (name : String)

namespace DeviceCommand

/-- A copy out is about the device only; the host object is the caller's. -/
def copyOut {α : Type} (object : HostObject) (op : Device.CopyOut α) : DeviceOp α :=
  op.onPart (fun d => (object, d)) fun s _ => s.2

def run : DeviceCommand → DeviceOp Unit
  | reset => Device.reset
  | load => Device.ensureLoaded
  | allocate sizes => (fun _ => ()) <$> Device.allocate sizes
  | deallocate buffer => (fun _ => ()) <$> Device.deallocate buffer
  | streamIn object buffer range wait => (fun _ => ()) <$> Device.streamIn object buffer range wait
  | streamOut object buffer range wait blocking =>
    (fun _ => ()) <$> copyOut object
      (if blocking then Device.streamOutBlocking buffer range wait else Device.streamOut buffer range wait)
  | installCode request => (fun _ => ()) <$> Device.installCode request
  | writeAtomics values wait => (fun _ => ()) <$> Device.writeAtomics values wait
  | launch code frame atomics grid globalOffset wait =>
    (fun _ => ()) <$> Device.launch code frame atomics grid globalOffset wait
  | enqueueMarker wait => (fun _ => ()) <$> Device.enqueueMarker wait
  | waitEvents events => Device.waitEvents events
  | completeEvent event => Device.completeEvent event
  | flush => Device.flush
  | registerKernel name kernel => Op.modify fun d => d.registerKernel name kernel
  | failCompilationOf name => Op.modify fun d => d.failCompilationOf name

end DeviceCommand

/-- Something that a machine is asked for, or a part of it. -/
inductive MachineCommand where
  | execute (mode : Mode)
  | warmup
  | freeDeviceMemory
  | forgetBuffers
  | setConfig (config : Config)
  | setSchedule (schedule : GridSchedule)
  | setProfiler (profiler : Profiler)
  | clearCode
  /-- The start of a pass, one instruction of the program, and the end of a pass. -/
  | startPass
  | perform (warmup : Bool) (last : Option EventId) (index : Nat)
  | endPass (warmup : Bool)
  | concludePass (warmup : Bool) (result : Except MachineError (Option EventId))
  /-- The two ends of a warmup. -/
  | setFinished (finished : Bool)
  /-- A part of a release of everything. -/
  | dealloc (object : Nat)

namespace MachineCommand

def performEntry (warmup : Bool) (last : Option EventId) : Option Entry → MachineOp Unit
  | none => pure ()
  | some entry => (fun _ => ()) <$> Machine.stepEntry warmup last entry

/-- Carry out the instruction of the program at an index. -/
def performAt (warmup : Bool) (last : Option EventId) (index : Nat) : MachineOp Unit := do
  let s ← Op.get
  performEntry warmup last s.machine.program.scan.entries[index]?

def run : MachineCommand → MachineOp Unit
  | execute mode => (fun _ => ()) <$> Machine.execute mode
  | warmup => Machine.warmup
  | freeDeviceMemory => (fun _ => ()) <$> Machine.freeDeviceMemory
  | forgetBuffers => (fun _ => ()) <$> Machine.forgetBuffers
  | setConfig config => Machine.setConfig config
  | setSchedule schedule => Machine.setSchedule schedule
  | setProfiler profiler => Machine.setProfiler profiler
  | clearCode => Machine.clearCode
  | startPass => Machine.startPass
  | perform warm last index => performAt warm last index
  | endPass warm => (fun _ => ()) <$> Machine.endPass warm
  | concludePass warm result => Machine.concludePass warm result
  | setFinished finished => Session.modifyMachine fun m => { m with finishedWarmup := finished }
  | dealloc object => (fun _ => ()) <$> Machine.dealloc object

end MachineCommand

/-! ### What a command may do -/

namespace DeviceCommand
open Device

/-- The kinds of changes that a command makes. -/
@[simp] def kinds : DeviceCommand → List ChangeKind
  | reset => [.reset, .count]
  | load => [.load, .count]
  | allocate _ => [.add, .count]
  | deallocate _ => [.free, .count]
  | streamIn _ _ _ _ => [.write, .record, .countIn]
  | streamOut _ _ _ _ _ => [.record, .countOut, .drain, .count]
  | installCode _ => [.install, .count]
  | writeAtomics _ _ => [.vacate, .renew, .write, .record, .count]
  | launch _ _ _ _ _ _ => [.write, .report, .record, .count]
  | enqueueMarker _ => [.mark]
  | waitEvents _ => [.drain, .count]
  | completeEvent _ => [.complete]
  | flush => [.count]
  | registerKernel _ _ | failCompilationOf _ => [.kernels]

private theorem only_copyOut (object : HostObject) (buffer : DeviceBuffer) (range : HostRange) (wait : List EventId)
    (blocking : Bool) :
    Op.Moves (copyOut object (if blocking then Device.streamOutBlocking buffer range wait
      else Device.streamOut buffer range wait)) (ChangesOnly [.record, .countOut, .drain, .count]) := by
  refine Op.moves_onPart (R := OfCopy (ChangesOnly [.record, .countOut, .drain, .count])) (Op.moves_ite ?_ ?_)
    fun _ _ changes => changes
  · exact only_streamOutBlocking _ _ _
  · exact fun s => (only_streamOut _ _ _ s).weaken (by decide)

/-- Whatever a device is asked for, and whether it does it or not. -/
theorem changesOnly (command : DeviceCommand) : Op.Moves command.run (ChangesOnly command.kinds) := by
  cases command with
  | reset => exact only_reset
  | load => exact only_ensureLoaded
  | allocate sizes => exact Op.moves_map (only_allocate _)
  | deallocate buffer => exact Op.moves_map (only_deallocate _)
  | streamIn object buffer range wait => exact Op.moves_map (only_streamIn _ _ _ _)
  | streamOut object buffer range wait blocking => exact Op.moves_map (only_copyOut _ _ _ _ _)
  | installCode request => exact Op.moves_map (only_installCode _)
  | writeAtomics values wait => exact Op.moves_map (only_writeAtomics _ _)
  | launch code frame atomics grid globalOffset wait => exact Op.moves_map (only_launch _ _ _ _ _ _)
  | enqueueMarker wait => exact Op.moves_map (only_enqueueMarker _)
  | waitEvents events => exact only_waitEvents _
  | completeEvent event => exact only_completeEvent _
  | flush => exact only_flush
  | registerKernel name kernel => exact Op.moves_modify fun d => (Change.register d name kernel).only (by simp)
  | failCompilationOf name => exact Op.moves_modify fun d => (Change.refuse d name).only (by simp)

/-- A relation that tolerates all that a command may do tolerates the command. -/
theorem within {R : Device → Device → Prop} {barred : List ChangeKind} [Op.Transition R] [Tolerates barred R]
    (command : DeviceCommand) (allowed : ∀ kind ∈ command.kinds, kind ∉ barred) : Op.Moves command.run R :=
  moves_within command.changesOnly allowed

end DeviceCommand

/-- Its memory only grows. -/
theorem DeviceCommand.grows (command : DeviceCommand) (d : Device) :
    d.memory.Grows (command.run d).state.memory :=
  command.within (R := Device.Grows) (by simp) d

/-- A relation that survives everything a machine does, compilations aside. -/
structure Respected (R : Session → Session → Prop) : Prop where
  frame : ∀ s t, Session.Keeps s t → R s t
  sync : Op.Moves Machine.syncEpoch R
  forget : Op.Moves Machine.forgetBuffers R
  clear : Op.Moves Machine.clearCode R
  schedule : ∀ schedule, Op.Moves (Machine.setSchedule schedule) R

/-- Then it survives every command, if it survives the compilations of the program. -/
theorem Respected.command {R : Session → Session → Prop} [Op.Transition R] (respected : Respected R)
    (command : MachineCommand) (s : Session)
    (compiles : ∀ l, s.machine.program.Launches l → Op.Moves (Machine.compile l) R) :
    R s (command.run s).state := by
  have kept {op : MachineOp Unit} (h : Op.Moves op Session.Keeps) : R s (op s).state :=
    respected.frame _ _ (h s)
  cases command with
  | execute mode =>
    exact Op.related_bind (Machine.survives_execute respected.frame respected.sync mode s compiles)
      fun _ => Op.Transition.refl _
  | warmup => exact Machine.survives_warmup respected.frame respected.sync s compiles
  | freeDeviceMemory => exact kept (Op.moves_map Machine.keeps_freeDeviceMemory)
  | forgetBuffers => exact Op.moves_map respected.forget s
  | setConfig config => exact kept (Session.keeps_setConfig config)
  | setSchedule schedule => exact respected.schedule schedule s
  | setProfiler profiler => exact kept (Session.keeps_setProfiler profiler)
  | clearCode => exact respected.clear s
  | startPass => exact Machine.survives_startPass respected.frame respected.sync s
  | perform warm last index =>
    show R s (MachineCommand.performEntry warm last s.machine.program.scan.entries[index]? s).state
    rcases found : s.machine.program.scan.entries[index]? with _ | ⟨offset, i⟩
    · exact Op.Transition.refl s
    refine Op.moves_map (Machine.survives_stepEntry respected.frame last ⟨offset, i⟩ ?_) s
    rintro l rfl
    exact compiles l ⟨offset, List.mem_of_getElem? found⟩
  | endPass warm => exact kept (Op.moves_map (Machine.moves_endPass warm))
  | concludePass warm result => exact kept (Machine.moves_concludePass warm result)
  | setFinished finished => exact kept (Machine.moves_setFinished finished)
  | dealloc object => exact kept (Op.moves_map (Machine.keeps_dealloc object))

private theorem respected_continues : Respected Machine.Continues where
  frame := Machine.continues_of_keeps
  sync := Machine.continues_syncEpoch
  forget := Machine.continues_forgetBuffers
  clear := Machine.moves_clearCode
  schedule _ := Machine.moves_setSchedule (fun _ => Machine.moves_setCache _) fun _ => Machine.continues_machine rfl rfl

theorem continues_command (command : MachineCommand) (s : Session) :
    Machine.Continues s (command.run s).state :=
  respected_continues.command command s fun l _ => Machine.continues_compile l

namespace Workspace

/-- One step of a history. -/
inductive Step : Workspace → Workspace → Prop where
  | build (w : Workspace) (device : Nat) (program : Bytes) (config : Config) :
      Step w (w.build device program config).state
  | machine (w : Workspace) (seat : Nat) (command : MachineCommand) :
      Step w (w.onMachine seat command.run).state
  | device (w : Workspace) (device : Nat) (command : DeviceCommand) :
      Step w (w.onDevice device command.run).state
  | setLimit (w : Workspace) (limit : Option Nat) :
      Step w { w with context.memory := w.context.memory.setLimit limit }
  | setObject (w : Workspace) (index : Nat) (object : HostObject) :
      Step w { w with context := w.context.setObject index object }

/-- What can come about on a context that nothing is charged to at first. -/
inductive Reachable : Workspace → Prop where
  | start (context : Context) (devices : List Device) (unused : context.memory.usage = 0) :
      Reachable { context, devices }
  | step {before after : Workspace} (reachable : Reachable before) (step : Step before after) :
      Reachable after

variable {w : Workspace} {seat index : Nat} {s : Session}

/-- A machine works on its device and on the context. -/
theorem session?_eq_some : w.session? seat = some (index, s) ↔
    ∃ m device, w.seats[seat]? = some (some ⟨index, m⟩) ∧ w.devices[index]? = some device ∧
      s = ⟨w.context, device, m⟩ := by
  simp only [session?, bind, Option.bind_eq_some_iff, pure, Option.some.injEq, Prod.mk.injEq]
  constructor
  · rintro ⟨entry, seated, ⟨_, m⟩, rfl, device, found, rfl, rfl⟩
    exact ⟨m, device, seated, found, rfl⟩
  · rintro ⟨m, device, seated, found, rfl⟩
    exact ⟨_, seated, _, rfl, device, found, rfl, rfl⟩

theorem onMachine_absent {α : Type} {op : MachineOp α} (absent : w.session? seat = none) :
    (w.onMachine seat op).state = w := by
  simp only [onMachine, absent]

theorem onMachine_present {α : Type} {op : MachineOp α} (present : w.session? seat = some (index, s)) :
    (w.onMachine seat op).state = w.update seat index (op s).state := by
  simp only [onMachine, present]
  rcases op s with ⟨e | a, t, log⟩ <;> rfl

/-- A session that is put back is found again. -/
theorem session?_update (present : w.session? seat = some (index, s)) (t : Session) :
    (w.update seat index t).session? seat = some (index, t) := by
  obtain ⟨m, device, seated, found, rfl⟩ := session?_eq_some.1 present
  refine session?_eq_some.2 ⟨t.machine, t.device, ?_, ?_, rfl⟩
  · exact List.getElem?_set_self (List.getElem?_eq_some_iff.1 seated).1
  · exact List.getElem?_set_self (List.getElem?_eq_some_iff.1 found).1

theorem onDevice_absent {α : Type} {op : DeviceOp α} (absent : w.devices[index]? = none) :
    (w.onDevice index op).state = w := by
  simp only [onDevice, absent]

theorem onDevice_present {α : Type} {op : DeviceOp α} {device : Device}
    (present : w.devices[index]? = some device) :
    (w.onDevice index op).state = { w with devices := w.devices.set index (op device).state } := by
  simp only [onDevice, present]
  rcases op device with ⟨e | a, d, log⟩ <;> rfl

/-- What building a machine does to a workspace: one more seat, taken if the machine could be built. -/
theorem build_cases (w : Workspace) (index : Nat) (program : Bytes) (config : Config) :
    (w.build index program config).state = { w with seats := w.seats ++ [none] } ∨
      ∃ device site, w.devices[index]? = some device ∧ Machine.SiteKeeps (w.context, device) site ∧
        ∃ seat, (w.build index program config).state =
            ⟨site.1, w.devices.set index site.2, w.seats ++ [seat]⟩ ∧
          ∀ taken, seat = some taken → taken.device = index ∧ taken.machine.Fresh site config := by
  unfold build
  rcases found : w.devices[index]? with _ | device
  · exact .inl rfl
  have kept := Machine.siteKeeps_create program config (w.context, device)
  rcases built : Machine.create program config (w.context, device) with ⟨e | m, site, log⟩ <;>
    rw [built] at kept <;> simp only [built]
  · refine .inr ⟨device, site, rfl, kept, none, rfl, ?_⟩
    intro taken absent
    cases absent
  · refine .inr ⟨device, site, rfl, kept, some ⟨index, m⟩, rfl, ?_⟩
    rintro taken ⟨⟩
    have made : Op.Yields (Machine.create program config) (w.context, device) m site := by
      rw [Op.Yields, built]
      exact ⟨rfl, rfl⟩
    exact ⟨rfl, Machine.create_fresh made⟩

/-- What holds of new machines and survives every command of a machine holds of all machines. -/
theorem machines_of_reachable {P : Machine → Prop}
    (fresh : ∀ (m : Machine) site config, m.Fresh site config → P m)
    (command : ∀ (c : MachineCommand) (s : Session), P s.machine → P (c.run s).state.machine)
    (reachable : w.Reachable) (present : w.session? seat = some (index, s)) : P s.machine := by
  have all : ∀ taken, some taken ∈ w.seats → P taken.machine := by
    clear present
    induction reachable with
    | start context devices unused => exact fun _ member => nomatch member
    | @step before after _ step holds =>
      cases step with
      | build device program config =>
        rcases build_cases before device program config with same | ⟨d, site, _, _, seat, same, made⟩ <;>
          rw [same] <;> intro taken member <;> rcases List.mem_append.1 member with old | new
        · exact holds taken old
        · cases List.mem_singleton.1 new
        · exact holds taken old
        · exact fresh _ _ _ (made taken (List.mem_singleton.1 new).symm).2
      | machine seat c =>
        rcases present : before.session? seat with _ | ⟨index, s⟩
        · rw [onMachine_absent present]
          exact holds
        · rw [onMachine_present present]
          obtain ⟨m, device, seated, found, rfl⟩ := session?_eq_some.1 present
          intro taken member
          rcases List.mem_or_eq_of_mem_set member with old | new
          · exact holds taken old
          · cases new
            exact command c _ (holds ⟨index, m⟩ (List.mem_of_getElem? seated))
      | device index c =>
        rcases present : before.devices[index]? with _ | device
        · rw [onDevice_absent present]
          exact holds
        · rw [onDevice_present present]
          exact holds
      | setLimit limit => exact holds
      | setObject index object => exact holds
  obtain ⟨m, device, seated, found, rfl⟩ := session?_eq_some.1 present
  exact all ⟨index, m⟩ (List.mem_of_getElem? seated)

end Workspace
end Offload
