import Offload.Proofs.Commands
import Offload.Proofs.DeviceHistory
import Offload.Proofs.LiveHandles
import Offload.Proofs.Measurements
import Offload.Proofs.Retirement
import Offload.Proofs.WarmPasses

/-! What a device keeps of its events. A run that tracks its events leaves one of them, its own marker at the
end, at once or after a wait for it. The log of markers keeps the latest ones, between half of its capacity
and all of it. -/
namespace Offload

/-- The marker that a command has placed, with the events that it waits for. -/
def DeviceStep.marker? (step : DeviceStep) : Option (EventId × List EventId) :=
  match step.command with
  | .enqueueMarker wait =>
    match step.before.events.marker wait with
    | .ok (entry, _) => some entry
    | .error _ => none
  | _ => none

/-- The markers that were placed, the first of them first. -/
def markersOf (steps : List DeviceStep) : List (EventId × List EventId) :=
  steps.filterMap DeviceStep.marker?

private theorem markersOf_append (steps : List DeviceStep) (step : DeviceStep) :
    markersOf (steps ++ [step]) = markersOf steps ++ step.marker?.toList := by
  rw [markersOf, List.filterMap_append, List.filterMap_cons]
  cases step.marker? <;> rfl

namespace Device

variable {d d' later : Device} {steps : List DeviceStep} {log markers : List (EventId × List EventId)}
  {entry : EventId × List EventId}

/-- The log holds the latest markers: as many as fit, or more than half of that. -/
structure LogsLatest (log markers : List (EventId × List EventId)) : Prop where
  suffix : log <:+ markers
  bound : log.length ≤ markerLogCapacity
  enough : min (markerLogCapacity / 2 + 1) markers.length ≤ log.length

private theorem logsLatest_nil : LogsLatest [] [] :=
  ⟨List.suffix_refl _, Nat.zero_le _, Nat.min_le_right _ _⟩

/-- One more marker, at the cost of the older half of a full log. -/
theorem LogsLatest.logMarker (latest : LogsLatest log markers) (entry : EventId × List EventId) :
    LogsLatest (logMarker log entry) (markers ++ [entry]) := by
  have bound := latest.bound
  have enough := latest.enough
  have grown {kept : List (EventId × List EventId)} (suffix : kept <:+ log) :
      kept ++ [entry] <:+ markers ++ [entry] := by
    obtain ⟨dropped, same⟩ := suffix.trans latest.suffix
    exact ⟨dropped, by rw [← List.append_assoc, same]⟩
  unfold Device.logMarker
  split
  · next full =>
    refine ⟨grown (List.drop_suffix _ _), ?_, ?_⟩ <;>
      simp only [List.length_append, List.length_drop, List.length_singleton, full, markerLogCapacity] <;> omega
  · next room =>
    refine ⟨grown (List.suffix_refl _), ?_, ?_⟩ <;>
      simp only [List.length_append, List.length_singleton, markerLogCapacity] at * <;> omega

/-- The table of events is in order. -/
def Tidy (d : Device) : Prop :=
  ∃ fulls, d.events.Tidy fulls

/-- No marker was placed, and the table of events stays in order. -/
structure Files (before after : Device) : Prop where
  log : after.markerLog = before.markerLog
  tidy : before.Tidy → after.Tidy

instance : Op.Transition Files where
  refl _ := ⟨rfl, id⟩
  trans first second := ⟨second.log.trans first.log, fun tidy => second.tidy (first.tidy tidy)⟩

instance : Tolerates [.mark, .reset] Files where
  change other change := by
    cases change with
    | mark | reset => exact absurd (by decide) other
    | record ran => exact ⟨rfl, fun ⟨fulls, tidy⟩ => ⟨fulls, tidy.record ran⟩⟩
    | drain ran => exact ⟨rfl, fun ⟨fulls, tidy⟩ => ⟨fulls, tidy.drain ran⟩⟩
    | complete ran => exact ⟨rfl, fun ⟨fulls, tidy⟩ => ⟨fulls, tidy.complete ran⟩⟩
    | _ => exact ⟨rfl, id⟩

/-- A marker is placed and logged, or nothing happens. -/
theorem enqueueMarker_cases (wait : List EventId) (d : Device) :
    (∃ e, d.events.marker wait = .error e ∧ (enqueueMarker wait d).state = d) ∨
      ∃ entry events, d.events.marker wait = .ok (entry, events) ∧
        Op.Yields (enqueueMarker wait) d entry.1 { d with
          events
          counters := { d.counters with markers := d.counters.markers + 1 }
          markerLog := logMarker d.markerLog entry } := by
  rcases made : d.events.marker wait with e | ⟨entry, events⟩
  · refine .inl ⟨e, rfl, ?_⟩
    have failed : (onEvents (fun t => t.marker wait) d).result = .error e ∧
        (onEvents (fun t => t.marker wait) d).state = d := by
      simp only [onEvents, Op.step, made]
      exact ⟨rfl, rfl⟩
    exact (Op.bind_of_failed failed.1).2.trans failed.2
  · refine .inr ⟨entry, events, rfl, ?_⟩
    simp only [enqueueMarker, onEvents, count, Op.yields_bind, Op.yields_step, Op.yields_modify, Op.yields_pure]
    exact ⟨entry, { d with events }, by rw [made]; rfl, (), _, rfl, (), _, rfl, rfl, rfl⟩

private theorem tidy_marker {wait : List EventId} {events : EventTable} (tidy : d.Tidy)
    (ran : d.events.marker wait = .ok (entry, events)) : ∃ fulls, events.Tidy fulls := by
  obtain ⟨fulls, tidy⟩ := tidy
  rcases wait with _ | ⟨w, rest⟩
  · exact ⟨_, tidy.marker_full ran⟩
  · exact ⟨_, tidy.marker_partial ran⟩

/-- Whatever a device was used for, its table of events is in order and its log holds the latest of the markers
since the reset. -/
theorem used_kept (used : Used d steps) : d.Tidy ∧ LogsLatest d.markerLog (markersOf steps) := by
  induction used with
  | new info deferred => exact ⟨⟨[], EventTable.tidy_start deferred⟩, logsLatest_nil⟩
  | @step d steps used command ih =>
    obtain ⟨tidy, latest⟩ := ih
    have kept (files : Files d (command.run d).state)
        (silent : markersOf (command.since d steps) = markersOf steps) :
        (command.run d).state.Tidy ∧ LogsLatest (command.run d).state.markerLog (markersOf (command.since d steps)) := by
      rw [silent, files.log]
      exact ⟨files.tidy tidy, latest⟩
    cases command with
    | reset => exact ⟨⟨[], EventTable.tidy_clear _⟩, logsLatest_nil⟩
    | enqueueMarker wait =>
      rw [DeviceCommand.run, Op.map_state]
      rcases enqueueMarker_cases wait d with ⟨e, failed, same⟩ | ⟨entry, events, made, ran⟩
      · have silent : markersOf (DeviceCommand.since d steps (.enqueueMarker wait)) = markersOf steps := by
          simp [DeviceCommand.since, markersOf_append, DeviceStep.marker?, failed]
        rw [silent, same]
        exact ⟨tidy, latest⟩
      · have placed : markersOf (DeviceCommand.since d steps (.enqueueMarker wait)) = markersOf steps ++ [entry] := by
          simp [DeviceCommand.since, markersOf_append, DeviceStep.marker?, made]
        rw [placed, ran.2]
        exact ⟨tidy_marker tidy made, latest.logMarker entry⟩
    | _ =>
      refine kept (DeviceCommand.within _ (by simp) d) ?_
      simp [DeviceCommand.since, markersOf_append, DeviceStep.marker?]

/-! ### One marker -/

private theorem enqueueMarker_events {wait : List EventId} {marker : EventId}
    (ran : Op.Yields (enqueueMarker wait) d marker d') :
    ∃ deps, d.events.marker wait = .ok ((marker, deps), d'.events) := by
  simp only [enqueueMarker, onEvents, count, Op.yields_bind, Op.yields_step, Op.yields_modify, Op.yields_pure] at ran
  obtain ⟨⟨id, deps⟩, placed, made, _, _, rfl, _, _, rfl, rfl, rfl⟩ := ran
  rcases ran : d.events.marker wait with e | ⟨⟨id', deps'⟩, events⟩ <;> rw [ran] at made <;> cases made
  exact ⟨_, rfl⟩

private theorem waitEvents_one {id : EventId} {events : EventTable} (ran : d.events.drain id = .ok events) :
    ∃ after, Op.Yields (waitEvents [id]) d () after ∧ after.events = events := by
  have drained : Op.Yields (drainAll [id]) d () { d with events } := by
    refine Op.yields_bind.2 ⟨(), { d with events }, ?_, Op.yields_pure.2 ⟨rfl, rfl⟩⟩
    rw [onEvents, Op.yields_step, ran]
    rfl
  exact ⟨_, Op.yields_bind.2 ⟨(), _, drained, Op.yields_modify.2 rfl⟩, rfl⟩

/-- After a full marker one event is left, at once or after a wait for the marker. -/
theorem enqueueMarker_settles {marker : EventId} (tidy : d.Tidy) (ran : Op.Yields (enqueueMarker []) d marker d')
    (same : later.events = d'.events) :
    (later.events.deferred = false → later.events.size = 1) ∧
      ∃ after, Op.Yields (waitEvents [marker]) later () after ∧ after.events.size = 1 := by
  obtain ⟨fulls, tidy⟩ := tidy
  obtain ⟨deps, made⟩ := enqueueMarker_events ran
  obtain ⟨placed, placedTidy, retired, deferred, next⟩ := tidy.marker_placed made
  obtain ⟨sameNext, sameDeferred⟩ := (placedTidy.sound.retires retired).same
  have after := tidy.marker_full made
  rw [← same] at made retired sameNext sameDeferred after
  refine ⟨fun immediate => tidy.size_marker_full ?_ made, ?_⟩
  · rw [← deferred, ← sameDeferred, immediate]
  · obtain ⟨events, drained, _⟩ := after.sound.drain_ok (after.known marker (List.mem_cons_self ..))
    obtain ⟨waited, ran', rfl⟩ := waitEvents_one drained
    exact ⟨waited, ran', after.size_drain_latest rfl (sameNext.trans next) drained⟩

end Device

namespace Machine
open Session (Via)

variable {s t : Session} {stop : ScanStop} {last marker : Option EventId} {entries done : List Entry} {mode : Mode}

/-- The settings of the machine are the same. -/
def SameConfig (s t : Session) : Prop :=
  t.machine.config = s.machine.config

instance : Op.Transition SameConfig where
  refl _ := rfl
  trans first second := Eq.trans second first

instance : Session.Tolerant Device.Any SameConfig where
  device _ _ _ := rfl
  timer _ _ _ := rfl
  kernelTime _ _ _ := rfl
  passes _ _ _ _ := rfl
  metric _ _ _ _ := rfl
  object _ _ _ := rfl
  lists _ _ _ := rfl
  code _ _ _ _ := rfl
  binding _ _ _ := rfl
  forget _ := rfl
  charge _ _ := rfl
  discharge _ _ := rfl

private theorem sameConfig_arrives (arrives : Arrives s done last t) : t.machine.config = s.machine.config :=
  Session.Tolerant.arrives (R := SameConfig) arrives

/-- A run that succeeds has carried out some instructions and come to its end. -/
theorem runEntries_ends (ran : Op.Yields (runEntries false stop last entries) s marker t) :
    ∃ done last' u, Op.Yields (runPrefix false last done) s last' u ∧ Op.Yields endRun u marker t := by
  induction entries generalizing last s with
  | nil =>
    unfold runEntries at ran
    split at ran
    · exact absurd ran Op.yields_fail
    · exact ⟨[], last, s, Op.yields_pure.2 ⟨rfl, rfl⟩, ran⟩
  | cons entry rest ih =>
    obtain ⟨_, traced, trace, ran⟩ := Op.yields_bind.1 ran
    obtain rfl : s = traced := traceEntry_yields.2.symm.trans trace.2
    split at ran
    · exact ⟨[], last, s, Op.yields_pure.2 ⟨rfl, rfl⟩, ran⟩
    · obtain ⟨_, stepped, step, ran⟩ := Op.yields_bind.1 ran
      obtain ⟨done, last', u, before, ended⟩ := ih ran
      exact ⟨entry :: done, last', u,
        Op.yields_bind.2 ⟨_, s, trace, Op.yields_bind.2 ⟨_, stepped, step, before⟩⟩, ended⟩

/-- A pass that is not a warmup and succeeds ends as a run. -/
theorem execute_ends (runs : ¬ OnlyWarms mode s) (ran : Op.Yields (execute mode) s marker t) :
    ∃ done last u v, Arrives s done last u ∧ Op.Yields endRun u marker v ∧ t.device = v.device := by
  obtain ⟨result, rfl⟩ := ran
  rcases within : s.context.memory.exceeded with _ | _
  · have real : (decide (mode = .warmup) || s.machine.config.virtualDevice) = false := by
      simpa [OnlyWarms] using runs
    obtain ⟨result', state⟩ := execute_within mode within
    rw [real, result] at result'
    rw [real] at state
    obtain ⟨_, u, started, ran⟩ := Op.yields_bind.1 (⟨result'.symm, rfl⟩ : Op.Yields (pass false) s marker _)
    obtain ⟨_, _, looked, ran⟩ := Op.yields_bind.1 ran
    obtain ⟨rfl, rfl⟩ := Op.yields_get.1 looked
    obtain ⟨done, last, v, before, ended⟩ := runEntries_ends ran
    refine ⟨done, last, v, _, Op.yields_bind.2 ⟨_, _, started, before⟩, ended, ?_⟩
    rw [state, ← result']
    rfl
  · rw [(execute_exceeded mode within).1] at result
    cases result

/-- The end of a run places a full marker, and a flush does nothing to the events. -/
theorem endRun_marker (tracked : s.machine.config.useDependencies = true) (ran : Op.Yields endRun s marker t) :
    ∃ m d, marker = some m ∧ Op.Yields (Device.enqueueMarker []) s.device m d ∧ t.device.events = d.events := by
  obtain ⟨_, _, looked, ran⟩ := Op.yields_bind.1 ran
  obtain ⟨rfl, rfl⟩ := Op.yields_get.1 looked
  rw [if_pos tracked] at ran
  obtain ⟨_, u, placed, ran⟩ := Op.yields_bind.1 ran
  obtain ⟨m, marked, rfl⟩ := Op.yields_map.1 placed
  obtain ⟨d, enqueued, rfl⟩ := yields_onDevice.1 marked
  dsimp only at ran
  split at ran
  · obtain ⟨_, v, flushed, ended⟩ := Op.yields_bind.1 ran
    obtain ⟨rfl, rfl⟩ := Op.yields_pure.1 ended
    obtain ⟨d', flush, rfl⟩ := yields_onDevice.1 flushed
    obtain rfl := Op.yields_modify.1 flush
    exact ⟨m, d, rfl, enqueued, rfl⟩
  · obtain ⟨rfl, rfl⟩ := Op.yields_pure.1 ran
    exact ⟨m, d, rfl, enqueued, rfl⟩

end Machine

/-- Machines share devices with each other and with anyone else, passes fail and devices are reset. Whenever a pass
of a machine that tracks its events is a run and succeeds, its device holds one event, if commands complete at once,
and otherwise one event once the marker at the end of the run has been waited for. The log of markers of the device,
after each of its operations, holds the latest of the markers since it was reset: as many as it has room for, or more
than half of that. -/
theorem Pool.bookkeeping_bounded {permits : DeviceCommand → Prop} {p : Pool} {index : Nat} {tenant : Tenant}
    {s : Session} (reachable : p.Reachable permits) (present : p.session? index = some (tenant, s))
    (tracked : s.machine.config.useDependencies = true) :
    (∀ mode marker t, ¬ Machine.OnlyWarms mode s → Op.Yields (Machine.execute mode) s marker t →
      ∃ m, marker = some m ∧ (t.device.events.deferred = false → t.device.events.size = 1) ∧
        ∃ d, Op.Yields (Device.waitEvents [m]) t.device () d ∧ d.events.size = 1) ∧
    (∃ steps, s.device.Used steps) ∧
    ∀ d steps, Device.Used d steps →
      d.markerLog <:+ markersOf steps ∧ d.markerLog.length ≤ markerLogCapacity ∧
        min (markerLogCapacity / 2 + 1) (markersOf steps).length ≤ d.markerLog.length := by
  obtain ⟨_, _, found, _⟩ := session?_eq_some.1 present
  have used := used_of_reachable reachable _ (List.mem_of_getElem? found)
  refine ⟨fun mode marker t runs ran => ?_, used, fun d steps used => ?_⟩
  · obtain ⟨done, last, u, v, arrives, ended, same⟩ := Machine.execute_ends runs ran
    obtain ⟨m, d, rfl, placed, events⟩ := Machine.endRun_marker
      ((congrArg Config.useDependencies (Machine.sameConfig_arrives arrives)).trans tracked) ended
    obtain ⟨steps, used⟩ := Machine.via_arrives Device.survives_traced arrives used
    exact ⟨m, rfl, Device.enqueueMarker_settles (Device.used_kept used).1 placed (same ▸ events)⟩
  · have latest := (Device.used_kept used).2
    exact ⟨latest.suffix, latest.bound, latest.enough⟩

/-- The run of the other machine has left its events on a deferred device. They are gone after a tracked run and a
wait for its marker. -/
theorem Pool.takingTurns_bounded : ∃ tenant s m t d,
    takingTurns.session? 0 = some (tenant, s) ∧ s.machine.config.useDependencies = true ∧
      s.device.events.deferred = true ∧ s.device.events.size = 3 ∧
      Op.Yields (Machine.execute .run) s (some m) t ∧ Op.Yields (Device.waitEvents [m]) t.device () d ∧
      d.events.size = 1 := by
  have facts : (takingTurns.session? 0).map (fun seated =>
      ((seated.2.machine.config.useDependencies, seated.2.device.events.deferred, seated.2.device.events.size),
        seated.2.context.memory.exceeded, seated.2.machine.config.virtualDevice,
        seated.2.machine.program.scan.entries.drop 5)) =
      some ((true, true, 3), false, false, [⟨128, .endPass⟩]) := by decide +kernel
  have arrives : (takingTurns.session? 0).map (fun seated => (Op.success? (do
        Machine.startPass
        Machine.runPrefix false none (seated.2.machine.program.scan.entries.take 5)) seated.2).isSome) =
      some true := by decide +kernel
  obtain ⟨⟨tenant, s⟩, present, same⟩ := Option.map_eq_some_iff.1 facts
  rw [present] at arrives
  simp only [Prod.mk.injEq, Option.map_some, Option.some.injEq, Option.isSome_iff_exists] at same arrives
  obtain ⟨⟨tracked, deferred, size⟩, within, real, final⟩ := same
  obtain ⟨⟨last, front⟩, arrived⟩ := arrives
  have arrives : Machine.Arrives s _ last front := Op.yields_iff_success?.2 arrived
  have used := used_of_reachable takingTurns_reachable s.device
    (List.mem_of_getElem? (session?_eq_some.1 present).2.2.1)
  obtain ⟨_, used⟩ := Machine.via_arrives Device.survives_traced arrives used
  obtain ⟨_, tidy⟩ := (Device.used_kept used).1
  have split := (List.take_append_drop 5 s.machine.program.scan.entries).symm
  rw [final] at split
  obtain ⟨_, t, ran, _⟩ := Machine.execute_of_arrives within real split arrives tidy.sound
  have runs : ¬ Machine.OnlyWarms .run s := by simp [Machine.OnlyWarms, real]
  obtain ⟨m, rfl, _, d, waited, one⟩ :=
    (bookkeeping_bounded takingTurns_reachable present tracked).1 _ _ _ runs ran
  exact ⟨tenant, s, m, t, d, present, tracked, deferred, size, ran, waited, one⟩

end Offload
