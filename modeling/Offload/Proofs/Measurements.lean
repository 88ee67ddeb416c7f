import Offload.Proofs.Contracts
import Offload.Proofs.Shadows
import Offload.Proofs.TameDevices

/-! What a pass does beside its work: it tracks events, takes measurements, logs, and adds markers.
None of that touches the data of a session, and on a device whose events are in order it goes through. -/
namespace Offload

namespace Device

instance survives_steady : Survives Steady := survives_of_allowed (by decide)

/-- Whatever a device is asked for, its events stay sound. -/
theorem events_sound_command (command : DeviceCommand) {d : Device} (sound : d.events.Sound) :
    (command.run d).state.events.Sound := by
  cases command with
  | reset => exact EventTable.sound_clear _
  | _ => exact (DeviceCommand.within (R := Steady) _ (by simp) d sound).sound

end Device

namespace Session

variable {s t : Session} {α β : Type}

/-- A session apart from events, measurements and the switches that have to do with them. -/
def data (s : Session) : Session :=
  { s with
    device := s.device.data
    machine.lists := s.machine.lists.resetAll
    machine.profiler := .off
    machine.config.useDependencies := false
    machine.config.flushOnEnd := false
    machine.config.traceCode := false
    machine.config.profiler := false }

/-- What shows data only is the same on both. -/
theorem view_of_data (view : Session → β) (blind : ∀ s, view s = view s.data) (same : s.data = t.data) :
    view s = view t := by
  rw [blind s, blind t, same]

/-- The data and the switches are the same. -/
structure Quiet (before after : Session) : Prop where
  data : after.data = before.data
  config : after.machine.config = before.machine.config

instance : Op.Transition Quiet where
  refl _ := ⟨rfl, rfl⟩
  trans first second := ⟨second.data.trans first.data, second.config.trans first.config⟩

/-- A quiet change is not seen by what looks at the data only. -/
theorem Quiet.view (quiet : Quiet s t) (view : Session → β) (blind : ∀ s, view s = view s.data) :
    view t = view s :=
  view_of_data view blind quiet.data

instance : ToleratesMeasures Device.Still Quiet where
  device s _ still := ⟨congrArg (fun d : Device => ({ s.data with device := d } : Session)) still, rfl⟩
  timer _ _ _ := ⟨rfl, rfl⟩
  kernelTime _ _ _ := ⟨rfl, rfl⟩

instance : ToleratesMetrics Quiet where
  metric _ _ _ _ := ⟨rfl, rfl⟩

end Session

namespace Machine
open Session (Quiet)

variable {s t : Session} {timer : TimerKind} {events : List EventId} {event : EventId}

/-- Quiet work that goes through leaves the data and sound events. -/
theorem reaches_quiet {α : Type} {op : MachineOp α} (quiet : Op.Moves op Quiet)
    (walk : Op.Moves op (Session.Via Device.Steady)) (sound : s.device.events.Sound) (goes : Op.Goes op s) :
    Op.Reaches op s fun _ t => Quiet s t ∧ t.device.events.Sound := by
  obtain ⟨a, t, ran, _⟩ := goes
  exact ⟨a, t, ran, quiet.yields ran, (walk.yields ran sound).sound⟩

/-! ### Event lists -/

/-- Lists are the same after a reset, whatever one of them held. -/
theorem resetAll_set (lists : EventLists) (index : Nat) (events : List EventId) :
    ({ lists with lists := lists.lists.set index events } : EventLists).resetAll = lists.resetAll := by
  simp [EventLists.resetAll, List.map_const']

private theorem resetAll_resetAll (lists : EventLists) : lists.resetAll.resetAll = lists.resetAll := by
  simp [EventLists.resetAll]

/-- Changes of event lists are quiet as far as a reset takes them back. -/
theorem quiet_setLists (change : Session → Except MachineError EventLists)
    (same : ∀ s lists, change s = .ok lists → lists.resetAll = s.machine.lists.resetAll) :
    Op.Moves (Op.step fun s => (change s).map fun lists =>
      ((), { s with machine := { s.machine with lists } })) Quiet := by
  refine Op.moves_step fun s a t ran => ?_
  rcases changed : change s with e | lists <;> rw [changed] at ran <;> cases ran
  refine ⟨?_, rfl⟩
  exact congrArg (fun lists => ({ s.data with machine.lists := lists } : Session)) (same s lists changed)

/-- A dependency is quiet. -/
theorem quiet_addDependency (last : Option EventId) (list : Option UInt32) :
    Op.Moves (addDependency last list) Quiet := by
  refine Op.moves_bind Op.moves_get fun s => ?_
  split
  · refine quiet_setLists (fun s => s.machine.lists.push _ _) fun s lists pushed => ?_
    obtain ⟨_, _, _, rfl⟩ := EventLists.push_ok_iff.1 pushed
    exact resetAll_set _ _ _
  · exact Op.moves_pure _

theorem quiet_resetAll :
    Op.Moves (Session.modifyMachine fun m => { m with lists := m.lists.resetAll }) Quiet := by
  refine Op.moves_modify fun s => ⟨?_, rfl⟩
  exact congrArg (fun lists => ({ s.data with machine.lists := lists } : Session)) (resetAll_resetAll _)

/-! ### Measurements -/

/-- The times of known events can be added up. -/
theorem addEventTimes_goes (sound : s.device.events.Sound)
    (known : ∀ e ∈ events, s.device.events.Knows e) : Op.Goes (addEventTimes timer events) s := by
  induction events generalizing s with
  | nil => exact Op.reaches_pure trivial
  | cons event rest ih =>
    obtain ⟨profile, resolved⟩ := Device.resolveEvent_yields sound (known event (List.mem_cons_self ..))
    refine Op.reaches_after (yields_onDevice.2 ⟨_, resolved, rfl⟩) ?_
    refine Op.reaches_modify_bind (Op.reaches_modify_bind (ih ?_ ?_))
    · exact sound
    · exact fun e member => known e (List.mem_cons_of_mem _ member)

/-- Copies of known events are measured. -/
theorem profileTransfer_goes {metric : MetricKind} {object bytes : Nat} (sound : s.device.events.Sound)
    (known : ∀ e ∈ events, s.device.events.Knows e) :
    Op.Goes (profileTransfer events timer metric object bytes) s := by
  refine Op.reaches_get (Op.reaches_ite (fun _ => ?_) fun _ => Op.reaches_pure trivial)
  obtain ⟨d, waited, later⟩ := Device.waitEvents_yields sound known
  refine Op.reaches_after (yields_onDevice.2 ⟨d, waited, rfl⟩) ?_
  refine Op.reaches_bind (addEventTimes_goes ?_ ?_) fun _ t _ _ => ⟨(), _, Op.yields_modify.2 rfl, trivial⟩
  · exact later.sound
  · exact fun e member => later.knows e (known e member)

/-- A launch whose event is known can be measured. -/
theorem measureLaunch_goes {task : String} (sound : s.device.events.Sound)
    (known : s.device.events.Knows event) : Op.Goes (measureLaunch task event) s := by
  refine Op.reaches_get (Op.reaches_ite (fun _ => ?_) fun _ => Op.reaches_pure trivial)
  obtain ⟨d, waited, later⟩ := Device.waitEvents_yields sound (List.forall_mem_singleton.2 known)
  obtain ⟨profile, resolved⟩ := Device.resolveEvent_yields later.sound (later.knows event known)
  refine Op.reaches_modify_bind (Op.reaches_after (yields_onDevice.2 ⟨d, waited, rfl⟩) ?_)
  refine Op.reaches_after (yields_onDevice.2 ⟨d, resolved, rfl⟩) ?_
  exact Op.reaches_modify_bind (Op.reaches_pure trivial)

/-! ### Markers and flushes -/

/-- A marker behind everything can always be had. -/
theorem enqueueMarker_goes (sound : s.device.events.Sound) :
    Op.Goes (Session.onDevice (Device.enqueueMarker [])) s := by
  obtain ⟨marker, d, marked, _⟩ := Device.enqueueMarker_yields sound (List.forall_mem_nil _)
  exact ⟨marker, _, yields_onDevice.2 ⟨d, marked, rfl⟩, trivial⟩

/-- A run always comes to its end. -/
theorem endRun_goes (sound : s.device.events.Sound) : Op.Goes endRun s := by
  have flushed (marker : Option EventId) (t : Session) : Op.Goes (do
      if s.machine.config.flushOnEnd then Session.onDevice Device.flush else pure ()
      pure marker : MachineOp (Option EventId)) t :=
    Op.reaches_ite (fun _ => Op.reaches_after (a := ()) (yields_onDevice.2 ⟨_, Op.yields_modify.2 rfl, rfl⟩)
      (Op.reaches_pure trivial)) fun _ => Op.reaches_pure trivial
  refine Op.reaches_get (Op.reaches_ite (fun _ => ?_) fun _ => ?_)
  · obtain ⟨marker, t, marked, _⟩ := enqueueMarker_goes sound
    exact Op.reaches_after (Op.yields_map.2 ⟨marker, marked, rfl⟩) (flushed _ t)
  · exact Op.reaches_after (Op.yields_pure.2 ⟨rfl, rfl⟩) (flushed none s)

/-! ### Arrivals -/

section Arrivals

variable {last : Option EventId} {done rest : List Entry} {offset : Nat}

/-- A run that stands in front of END succeeds with what it has. -/
theorem execute_of_arrives (within : s.context.memory.exceeded = false)
    (real : s.machine.config.virtualDevice = false)
    (split : s.machine.program.scan.entries = done ++ ⟨offset, .endPass⟩ :: rest)
    (arrives : Arrives s done last t) (sound : t.device.events.Sound) :
    ∃ marker u, Op.Yields (execute .run) s marker u ∧ u.context = t.context ∧
      u.device.memory = t.device.memory := by
  obtain ⟨marker, u, ended, _⟩ := endRun_goes sound
  have quiet := (moves_endRun (R := Quiet)).yields ended
  have ran : Op.Yields (pass false) s marker u := by
    obtain ⟨_, started, begun, ran⟩ := Op.yields_bind.1 arrives
    refine Op.yields_bind.2 ⟨(), started, begun, ?_⟩
    have program : started.machine.program = s.machine.program :=
      ((survives_startPass continues_of_keeps continues_syncEpoch).yields begun).program
    rw [Op.Yields, runProgram_split (program ▸ split)]
    refine Op.yields_bind.2 ⟨last, t, ran, Op.yields_bind.2 ⟨(), t, traceEntry_yields, ?_⟩⟩
    rw [if_pos rfl]
    exact ended
  obtain ⟨result, state⟩ := execute_within .run within
  have real_run : (decide (Mode.run = .warmup) || s.machine.config.virtualDevice) = false := by
    rw [real]
    rfl
  rw [real_run, ran.1] at result state
  rw [ran.2] at state
  exact ⟨marker, _, ⟨result, state⟩, quiet.view (fun s => s.context) fun _ => rfl,
    quiet.view (fun s => s.device.memory) fun _ => rfl⟩

end Arrivals
end Machine
end Offload
