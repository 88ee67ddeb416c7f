import Offload.Proofs.Epochs

/-! The life of a machine, one thing after another. Whole passes come apart into the start, the
instructions and the end, and a release of everything into the releases of single objects, so that what a
machine has been through is a list of single things with the session that each began in. Between two of
them its device and its context may be used by others. -/
namespace Offload

/-- A single thing that a machine did: where it began, and what was asked for. -/
structure Moment where
  before : Session
  command : MachineCommand

/-- Where it ended. -/
def Moment.after (m : Moment) : Session :=
  (m.command.run m.before).state

/-- The command is not made up of others. -/
def MachineCommand.Single : MachineCommand → Prop
  | execute _ => False
  | warmup => False
  | freeDeviceMemory => False
  | _ => True

/-- The command is a part of a pass, of a warmup or of a release of everything. -/
def MachineCommand.Part : MachineCommand → Prop
  | startPass | perform _ _ _ | endPass _ | concludePass _ _ | setFinished _ | dealloc _ => True
  | _ => False

/-- The command is a pass, a warmup or a release of everything: it is made up of parts. -/
def MachineCommand.Routine : MachineCommand → Prop
  | execute _ | warmup | freeDeviceMemory => True
  | _ => False

namespace Session

/-- What a machine goes through from one session on, the latest first, and where it is then. -/
inductive Leads (start : Session) : List Moment → Session → Prop where
  | here : Leads start [] start
  | work {past : List Moment} {s : Session} (leads : Leads start past s) (command : MachineCommand)
      (single : command.Single) : Leads start (⟨s, command⟩ :: past) (command.run s).state
  | elsewhere {past : List Moment} {s : Session} (leads : Leads start past s) (context : Context)
      (device : Device) (grows : s.device.memory.Grows device.memory) :
      Leads start past ⟨context, device, s.machine⟩

/-- The single things that a machine has been through since it was built, the latest first. -/
def Lives (past : List Moment) (s : Session) : Prop :=
  ∃ (m : Machine) (site : Machine.Site) (config : Config), m.Fresh site config ∧
    Leads ⟨site.1, site.2, m⟩ past s

/-- Single things lead from the one session to the other. -/
def Extends (s t : Session) : Prop :=
  ∃ past, Leads s past t

private theorem Leads.append {s t u : Session} {past more : List Moment} (first : Leads s past t)
    (second : Leads t more u) : Leads s (more ++ past) u := by
  induction second with
  | here => exact first
  | work _ command single leads => exact .work leads command single
  | elsewhere _ context device grows leads => exact .elsewhere leads context device grows

instance : Op.Transition Extends where
  refl _ := ⟨[], .here⟩
  trans first second := by
    obtain ⟨past, leads⟩ := first
    obtain ⟨more, leads'⟩ := second
    exact ⟨more ++ past, leads.append leads'⟩

variable {s : Session}

private theorem extends_single (command : MachineCommand) (single : command.Single) (s : Session) :
    Extends s (command.run s).state :=
  ⟨[⟨s, command⟩], .work .here command single⟩

/-! ### Routines and their parts -/

section Parts

variable {R : Session → Session → Prop} [Op.Transition R]
  (part : ∀ (command : MachineCommand) (s : Session), command.Part → R s (command.run s).state)
include part

omit [Op.Transition R] in
/-- One instruction of the program. -/
theorem related_stepEntry (warmup : Bool) (last : Option EventId) {entry : Entry} {index : Nat} {s : Session}
    (found : s.machine.program.scan.entries[index]? = some entry) :
    R s (Machine.stepEntry warmup last entry s).state ∧
      (Machine.stepEntry warmup last entry s).state.machine.program = s.machine.program := by
  have performed : ((MachineCommand.perform warmup last index).run s).state =
      (Machine.stepEntry warmup last entry s).state := by
    show (MachineCommand.performEntry warmup last s.machine.program.scan.entries[index]? s).state = _
    rw [found, MachineCommand.performEntry, Op.map_state]
  rw [← performed]
  exact ⟨part (.perform warmup last index) s trivial, (continues_command (.perform warmup last index) s).program⟩

/-- The instructions from some index on, one by one. -/
theorem related_entries (warmup : Bool) (stop : ScanStop) (entries : List Entry) (index : Nat)
    (last : Option EventId) (s : Session) (behind : s.machine.program.scan.entries.drop index = entries) :
    R s (Machine.runEntries warmup stop last entries s).state := by
  have ended (s : Session) : R s (Machine.endPass warmup s).state := by
    have single := part (.endPass warmup) s trivial
    rwa [MachineCommand.run, Op.map_state] at single
  induction entries generalizing index last s with
  | nil =>
    unfold Machine.runEntries
    split
    · exact Op.moves_fail _ s
    · exact ended s
  | cons entry rest ih =>
    unfold Machine.runEntries
    rw [(Op.bind_of_yields Machine.traceEntry_yields).2]
    split
    · exact ended s
    have found : s.machine.program.scan.entries[index]? = some entry := by
      rw [← List.head?_drop, behind]
      rfl
    obtain ⟨stepped, program⟩ := related_stepEntry part warmup last found
    refine Op.related_bind stepped fun next => ih (index + 1) next _ ?_
    rw [program, ← List.drop_drop, behind]
    rfl

/-- The same for some of the instructions that come next. -/
theorem related_prefix (warmup : Bool) (done rest : List Entry) (index : Nat) (last : Option EventId) (s : Session)
    (behind : s.machine.program.scan.entries.drop index = done ++ rest) :
    R s (Machine.runPrefix warmup last done s).state := by
  induction done generalizing index last s with
  | nil => exact Op.Transition.refl s
  | cons entry done ih =>
    unfold Machine.runPrefix
    rw [(Op.bind_of_yields Machine.traceEntry_yields).2]
    have found : s.machine.program.scan.entries[index]? = some entry := by
      rw [← List.head?_drop, behind]
      rfl
    obtain ⟨stepped, program⟩ := related_stepEntry part warmup last found
    refine Op.related_bind stepped fun next => ih (index + 1) next _ ?_
    rw [program, ← List.drop_drop, behind]
    rfl

private theorem related_pass (warmup : Bool) (s : Session) : R s (Machine.pass warmup s).state := by
  refine Op.related_bind (part .startPass s trivial) fun _ => ?_
  exact related_entries part warmup _ _ 0 none _ rfl

private theorem related_execute (mode : Mode) (s : Session) : R s (Machine.execute mode s).state := by
  rcases within : s.context.memory.exceeded with _ | _
  · rw [(Machine.execute_within mode within).2]
    generalize (decide (mode = .warmup) || s.machine.config.virtualDevice) = warmup
    refine Op.Transition.trans (related_pass part warmup s) ?_
    exact part (.concludePass warmup (Machine.pass warmup s).result) _ trivial
  · rw [(Machine.execute_exceeded mode within).2]
    exact Op.Transition.refl s

private theorem related_deallocAll (objects : List Nat) (s : Session) : R s (Machine.deallocAll objects s).state := by
  induction objects generalizing s with
  | nil => exact Op.moves_pure _ s
  | cons object rest ih =>
    refine Op.related_bind ?_ fun freed => Op.related_bind (ih _) fun _ => Op.moves_pure _ _
    have single := part (.dealloc object) s trivial
    rwa [MachineCommand.run, Op.map_state] at single

/-- A routine leads to a related session, if each of its parts does. -/
theorem related_routine {command : MachineCommand} (routine : command.Routine) (s : Session) :
    R s (command.run s).state := by
  cases command with
  | execute mode =>
    rw [MachineCommand.run, Op.map_state]
    exact related_execute part mode s
  | warmup =>
    refine Op.related_bind (part (.setFinished false) s trivial) fun _ => ?_
    refine Op.related_bind (related_execute part _ _) fun _ => ?_
    exact part (.setFinished true) _ trivial
  | freeDeviceMemory =>
    rw [MachineCommand.run, Op.map_state]
    exact Op.related_bind (Op.moves_get s) fun _ => related_deallocAll part _ _
  | _ => exact routine.elim

end Parts

theorem extends_part (command : MachineCommand) (s : Session) (part : command.Part) :
    Extends s (command.run s).state := by
  refine extends_single command ?_ s
  cases command <;> trivial

/-- Every command is a number of single ones. -/
theorem extends_command (command : MachineCommand) (s : Session) : Extends s (command.run s).state := by
  by_cases single : command.Single
  · exact extends_single command single s
  · refine related_routine extends_part ?_ s
    cases command <;> first | trivial | exact absurd trivial single

end Session

namespace Workspace

variable {w before after : Workspace} {seat index : Nat} {s : Session}

section Sessions

variable {P : Nat → Session → Prop}

/-- The property holds of every machine with the device it is on, and of the place of that device. -/
def Every (P : Nat → Session → Prop) (w : Workspace) : Prop :=
  ∀ taken, some taken ∈ w.seats → ∀ device, w.devices[taken.device]? = some device →
    P taken.device ⟨w.context, device, taken.machine⟩

/-- Another context and a device that has aged make no difference. -/
theorem every_elsewhere {context : Context} {device device' : Device}
    (elsewhere : ∀ i s context device, P i s → s.device.Ages device → P i ⟨context, device, s.machine⟩)
    (every : w.Every P) (found : w.devices[index]? = some device) (ages : device.Ages device') :
    Every P { w with context, devices := w.devices.set index device' } := by
  intro taken member other present
  rw [List.getElem?_set] at present
  split at present
  · next same =>
    split at present
    · cases present
      exact elsewhere _ _ _ _ (every taken member device (same ▸ found)) ages
    · cases present
  · exact elsewhere _ _ _ _ (every taken member other present) (Op.Transition.refl _)

/-- What holds of new machines, survives every command and does not depend on others survives a step. -/
theorem every_step (step : Step before after)
    (fresh : ∀ i (m : Machine) site config, m.Fresh site config → P i ⟨site.1, site.2, m⟩)
    (command : ∀ i (c : MachineCommand) (s : Session), before.devices[i]? = some s.device → P i s →
      P i (c.run s).state)
    (elsewhere : ∀ i s context device, P i s → s.device.Ages device → P i ⟨context, device, s.machine⟩)
    (every : before.Every P) : after.Every P := by
  cases step with
  | build device program config =>
    rcases build_cases before device program config with same | ⟨d, site, found, kept, seat, same, made⟩ <;>
      rw [same] <;> intro taken member other present <;> rcases List.mem_append.1 member with old | new
    · exact every taken old other present
    · cases List.mem_singleton.1 new
    · have ages := Device.ages_of_same kept.device.memory kept.device.epoch kept.device.atomics
      exact every_elsewhere elsewhere every found ages taken old other present
    · obtain ⟨rfl, fresh'⟩ := made taken (List.mem_singleton.1 new).symm
      rw [List.getElem?_set_self (List.getElem?_eq_some_iff.1 found).1] at present
      cases present
      exact fresh _ _ _ _ fresh'
  | machine seat c =>
    rcases present : before.session? seat with _ | ⟨index, s⟩
    · rw [onMachine_absent present]
      exact every
    rw [onMachine_present present]
    obtain ⟨m, device, seated, found, rfl⟩ := session?_eq_some.1 present
    have ages := c.via Device.survives_ages ⟨before.context, device, m⟩
    intro taken member other present
    rcases List.mem_or_eq_of_mem_set member with old | new
    · exact every_elsewhere elsewhere every found ages taken old other present
    · cases new
      change (before.devices.set index _)[index]? = some other at present
      rw [List.getElem?_set_self (List.getElem?_eq_some_iff.1 found).1] at present
      cases present
      exact command _ c _ found (every ⟨index, m⟩ (List.mem_of_getElem? seated) device found)
  | device index c =>
    rcases present : before.devices[index]? with _ | device
    · rw [onDevice_absent present]
      exact every
    · rw [onDevice_present present]
      exact every_elsewhere elsewhere every present (c.ages device)
  | setLimit limit =>
    exact fun taken member device found =>
      elsewhere _ _ _ _ (every taken member device found) (Op.Transition.refl _)
  | setObject index object =>
    exact fun taken member device found =>
      elsewhere _ _ _ _ (every taken member device found) (Op.Transition.refl _)

theorem every_session (every : w.Every P) (present : w.session? seat = some (index, s)) : P index s := by
  obtain ⟨m, device, seated, found, rfl⟩ := session?_eq_some.1 present
  exact every ⟨index, m⟩ (List.mem_of_getElem? seated) device found

end Sessions

/-- So it holds of every session of a history. -/
theorem sessions_of_reachable {P : Session → Prop}
    (fresh : ∀ (m : Machine) site config, m.Fresh site config → P ⟨site.1, site.2, m⟩)
    (command : ∀ (c : MachineCommand) (s : Session), P s → P (c.run s).state)
    (elsewhere : ∀ s context device, P s → s.device.Ages device → P ⟨context, device, s.machine⟩)
    (reachable : w.Reachable) : w.Every fun _ => P := by
  induction reachable with
  | start context devices unused => exact fun _ member => nomatch member
  | step _ step every =>
    exact every_step step (fun _ => fresh) (fun _ c s _ => command c s) (fun _ => elsewhere) every

/-- Every machine of a history has a life. -/
theorem lives_of_reachable (reachable : w.Reachable) (present : w.session? seat = some (index, s)) :
    ∃ past, Session.Lives past s := by
  refine every_session (sessions_of_reachable (P := fun s => ∃ past, Session.Lives past s) ?_ ?_ ?_ reachable) present
  · exact fun m site config fresh => ⟨[], m, site, config, fresh, .here⟩
  · rintro c s ⟨past, m, site, config, fresh, leads⟩
    obtain ⟨more, leads'⟩ := Session.extends_command c s
    exact ⟨_, m, site, config, fresh, leads.append leads'⟩
  · rintro s context device ⟨past, m, site, config, fresh, leads⟩ ages
    exact ⟨past, m, site, config, fresh, .elsewhere leads context device ages.memory⟩

end Workspace
end Offload
