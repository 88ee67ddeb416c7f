import Offload.Proofs.Epochs
import Offload.Proofs.Pool
import Offload.Proofs.Release
import Offload.Proofs.ScheduledGrids

/-! Buffers that a reset has taken from a machine. A machine that does not know the epoch of its device has
nothing there any more; and until it gets to know the epoch, it binds nothing new. -/
namespace Offload

namespace Machine

/-- In an epoch that the machine does not know, nothing that it has bound is there. -/
def Lapsed (m : Machine) (d : Device) : Prop :=
  d.epoch ≠ m.epoch → ∀ id, m.Binds id → d.memory.buffers.get? id = none

/-! ### Settings -/

theorem setConfig_yields (config : Config) (s : Session) :
    ∃ t, Op.Yields (setConfig config) s () t ∧ t.machine.bindings = s.machine.bindings ∧ usage t = usage s := by
  have bindings : (if config.maxEvents = s.machine.config.maxEvents then { s.machine with config }
      else { s.machine with config, lists := .create s.machine.lists.size config.maxEvents } : Machine).bindings =
        s.machine.bindings := by
    split <;> rfl
  unfold setConfig
  rcases config.memoryLimit with _ | limit
  · exact ⟨_, ⟨rfl, rfl⟩, bindings, rfl⟩
  · exact ⟨_, ⟨rfl, rfl⟩, bindings, rfl⟩

theorem setSchedule_yields (schedule : GridSchedule) (s : Session) :
    ∃ t, Op.Yields (setSchedule schedule) s () t ∧ t.machine.bindings = s.machine.bindings ∧ usage t = usage s := by
  obtain ⟨cache, state, _⟩ := setSchedule_slots schedule s
  obtain ⟨⟨⟩, rebuilt⟩ := succeeds_rebuildChanged schedule 0 s.context.tasks s
  refine ⟨_, ⟨?_, state⟩, rfl, rfl⟩
  unfold setSchedule
  rw [Op.get_bind, (Op.bind_of_yields ⟨rebuilt, rfl⟩).1]
  rfl

/-- Settings do not touch what is bound, nor what is charged. -/
theorem settings_yield (config : Config) (profiler : Profiler) (schedule : GridSchedule) (s : Session) :
    ∃ t, Op.Yields (do setConfig config; setProfiler profiler; setSchedule schedule) s () t ∧
      t.machine.bindings = s.machine.bindings ∧ usage t = usage s := by
  obtain ⟨t, configured, bindings, charged⟩ := setConfig_yields config s
  obtain ⟨u, scheduled, bindings', charged'⟩ := setSchedule_yields schedule { t with machine.profiler := profiler }
  refine ⟨u, Op.yields_bind.2 ⟨(), t, configured, Op.yields_bind.2 ⟨(), _, ⟨rfl, rfl⟩, scheduled⟩⟩, ?_, ?_⟩
  · exact bindings'.trans bindings
  · exact charged'.trans charged

end Machine

namespace Session
open Machine (bufferOf keeps_dealloc)

variable {s t : Session}

/-- If the machine does not know the epoch afterwards, it has bound nothing new. -/
structure Lapses (before after : Session) : Prop where
  tracks : Tracks before after
  binds : after.device.epoch ≠ after.machine.epoch → ∀ id, after.machine.Binds id → before.machine.Binds id

theorem Tracks.current (tracks : Tracks s t) (current : s.device.epoch = s.machine.epoch) :
    t.device.epoch = t.machine.epoch := by
  rcases tracks.machine with same | same
  · rw [tracks.device, same, current]
  · rw [tracks.device, same]

instance : Op.Transition Lapses where
  refl _ := ⟨Op.Transition.refl _, fun _ _ => id⟩
  trans first second :=
    ⟨Op.Transition.trans first.tracks second.tracks, fun stale id binds =>
      first.binds (fun current => stale (second.tracks.current current)) id (second.binds stale id binds)⟩

/-- A machine that knows the epoch goes on knowing it. -/
theorem lapses_of_current (current : s.device.epoch = s.machine.epoch) (tracks : Tracks s t) : Lapses s t :=
  ⟨tracks, fun stale => absurd (tracks.current current) stale⟩

private theorem lapses_of_bindings (tracks : Tracks s t)
    (bindings : ∀ object b, bufferOf t object = some b → bufferOf s object = some b) : Lapses s t := by
  refine ⟨tracks, fun _ id => ?_⟩
  rintro ⟨object, b, bound, same⟩
  exact ⟨object, b, bindings object b bound, same⟩

private theorem lapses_of_same (kept : Keeps s t) (bindings : t.machine.bindings = s.machine.bindings) : Lapses s t :=
  lapses_of_bindings (tracks_of_keeps s t kept) fun object b bound => by rwa [bufferOf, ← bindings]

/-- The machine knows the epoch afterwards, or what it has bound is unchanged. -/
theorem lapses_syncEpoch : Op.Moves Machine.syncEpoch Lapses := by
  intro s
  have tracks := Machine.tracks_syncEpoch s
  by_cases current : s.device.epoch = s.machine.epoch
  · exact lapses_of_current current tracks
  rcases finished : s.machine.finishedWarmup with _ | _
  · rw [(Machine.syncEpoch_notice current finished).2] at tracks ⊢
    exact ⟨tracks, fun stale => absurd rfl stale⟩
  · rw [(Machine.syncEpoch_fatal current finished).2]
    exact Op.Transition.refl s

private theorem lapses_startPass : Op.Moves Machine.startPass Lapses :=
  Op.moves_bind (fun s => lapses_of_same (Machine.moves_resetAll s) rfl) fun _ => lapses_syncEpoch

/-- A pass does not begin in an epoch that the machine does not know. -/
theorem current_of_startPass (started : (Machine.startPass s).result = .ok ()) :
    (Machine.startPass s).state.device.epoch = (Machine.startPass s).state.machine.epoch := by
  have noticed : Op.Yields Machine.syncEpoch { s with machine.lists := s.machine.lists.resetAll } ()
      (Machine.startPass s).state := ⟨started, rfl⟩
  rcases Machine.yields_syncEpoch.1 noticed with ⟨current, same⟩ | ⟨_, _, same⟩ <;> rw [← same]
  · exact current
  · rfl

private theorem lapses_pass (warmup : Bool) : Op.Moves (Machine.pass warmup) Lapses := by
  intro s
  rcases started : (Machine.startPass s).result with e | _
  · rw [Machine.pass, (Op.bind_of_failed started).2]
    exact lapses_startPass s
  · rw [Machine.pass, (Op.bind_of_yields ⟨started, rfl⟩).2]
    refine Op.Transition.trans (lapses_startPass s) (lapses_of_current (current_of_startPass started) ?_)
    exact Machine.survives_runProgram tracks_of_keeps warmup _ fun l _ => Machine.tracks_compile l

private theorem lapses_execute (mode : Mode) : Op.Moves (Machine.execute mode) Lapses := by
  intro s
  rcases within : s.context.memory.exceeded with _ | _
  · rw [(Machine.execute_within mode within).2]
    generalize (decide (mode = .warmup) || s.machine.config.virtualDevice) = warmup
    refine Op.Transition.trans (lapses_pass warmup s) ?_
    refine lapses_of_same (Machine.moves_concludePass _ _ _) ?_
    rcases (Machine.pass warmup s).result with e | marker <;> rfl
  · rw [(Machine.execute_exceeded mode within).2]
    exact Op.Transition.refl s

private theorem lapses_setFinished (finished : Bool) :
    Op.Moves (modifyMachine fun m => { m with finishedWarmup := finished }) Lapses :=
  fun s => lapses_of_same (Machine.moves_setFinished finished s) rfl

private theorem lapses_dealloc (object : Nat) : Op.Moves (Machine.dealloc object) Lapses := by
  intro s
  refine lapses_of_bindings (tracks_of_keeps _ _ (keeps_dealloc object s)) fun other b bound => ?_
  rcases ended : (Machine.dealloc object s).result with e | freed
  · rwa [Machine.refuses_dealloc object s e ended] at bound
  · obtain ⟨_, _, _, _, ⟨_, _, same⟩ | ⟨_, _, _, _, same⟩⟩ := Machine.yields_dealloc.1 ⟨ended, rfl⟩ <;>
      rw [← same] at bound
    · exact bound
    · rw [bufferOf, Machine.bufferOf_unbind] at bound
      split at bound
      · cases bound
      · exact bound

private theorem lapses_freeDeviceMemory : Op.Moves Machine.freeDeviceMemory Lapses := by
  refine Op.moves_bind Op.moves_get fun s => ?_
  induction s.machine.bindings.bound.map (·.1) with
  | nil => exact Op.moves_pure _
  | cons object rest ih =>
    exact Op.moves_bind (lapses_dealloc object) fun _ => Op.moves_bind ih fun _ => Op.moves_pure _

private theorem lapses_forgetBuffers : Op.Moves Machine.forgetBuffers Lapses := by
  intro s
  refine lapses_of_bindings (Machine.tracks_forgetBuffers s) fun object b bound => ?_
  rw [(Machine.forgetBuffers_yields s).2, bufferOf, Bindings.buffer?_unbindAll] at bound
  cases bound

private theorem lapses_setConfig (config : Config) : Op.Moves (Machine.setConfig config) Lapses := by
  intro s
  obtain ⟨t, ⟨_, state⟩, bindings, _⟩ := Machine.setConfig_yields config s
  exact lapses_of_same (keeps_setConfig config s) (state ▸ bindings)

private theorem lapses_setSchedule (schedule : GridSchedule) : Op.Moves (Machine.setSchedule schedule) Lapses := by
  intro s
  obtain ⟨t, ⟨_, state⟩, bindings, _⟩ := Machine.setSchedule_yields schedule s
  refine lapses_of_bindings (Machine.tracks_setSchedule schedule s) fun object b bound => ?_
  rwa [state, bufferOf, bindings] at bound

/-- Whole requests bind nothing new in an epoch that the machine does not know. -/
theorem lapses_command {command : MachineCommand} (whole : command.Whole) : Op.Moves command.run Lapses := by
  cases command with
  | execute mode => exact Op.moves_map (lapses_execute mode)
  | warmup =>
    exact Op.moves_bind (lapses_setFinished false) fun _ =>
      Op.moves_bind (lapses_execute _) fun _ => lapses_setFinished true
  | freeDeviceMemory => exact Op.moves_map lapses_freeDeviceMemory
  | forgetBuffers => exact Op.moves_map lapses_forgetBuffers
  | setConfig config => exact lapses_setConfig config
  | setSchedule schedule => exact lapses_setSchedule schedule
  | setProfiler profiler => exact fun s => lapses_of_same (keeps_setProfiler profiler s) rfl
  | clearCode => exact fun s => lapses_of_bindings (Machine.tracks_clearCode s) fun _ _ => id
  | _ => exact whole.elim

end Session
end Offload
