import Offload.Proofs.LivePasses

/-! Requests to a machine as a whole: passes, warmups, releases and changes of its settings. Other
owners may have used the device in between, and it may have been reset; a pass that goes on first
notices the reset and drops what it held, so that from there on it works with good handles only. -/
namespace Offload.Machine
open Session (Safe Excused)

variable {s t : Session} {α : Type}

/-! ### The start of a pass -/

/-- With a reset the machine has lost its buffers and binaries, and it forgets them. -/
theorem safe_afterNotice (reset : s.device.epoch ≠ s.machine.epoch) : Safe s (afterNotice s) := by
  have unbound (object : Nat) : s.machine.bindings.unbindAll.buffer? object = none :=
    Bindings.buffer?_unbindAll _ object
  have free (id : BufferId) : ¬ (afterNotice s).machine.Binds id := by
    rintro ⟨object, b, bound, _⟩
    cases (unbound object).symm.trans bound
  refine ⟨fun tidy => ?_, fun _ => ⟨Op.Transition.refl _, fun id binds => absurd binds (free id)⟩,
    fun _ underway => absurd underway.current reset, Iff.rfl, rfl⟩
  refine ⟨tidy.sound, Nat.le_refl _, Bindings.issuedBy_of_unbound unbound, ?_,
    fun id slot => ⟨(tidy.slot id slot).1, free id⟩, ?_, ?_⟩
  · intro object other b b' bound
    cases (unbound object).symm.trans bound
  · intro _ object b bound
    cases (unbound object).symm.trans bound
  · intro slot member code found
    obtain ⟨old, _, rfl⟩ := List.mem_map.1 member
    cases found

private theorem serves_syncEpoch : Op.Serves syncEpoch Safe Excused
    (fun _ t => t.device.epoch = t.machine.epoch ∧ t.machine.lists = s.machine.lists) s := by
  by_cases current : s.device.epoch = s.machine.epoch
  · exact Op.serves_of_yields (syncEpoch_current current) (Op.Transition.refl s) ⟨current, rfl⟩
  rcases finished : s.machine.finishedWarmup with _ | _
  · exact Op.serves_of_yields (syncEpoch_notice current finished) (safe_afterNotice current) ⟨rfl, rfl⟩
  · obtain ⟨failed, same⟩ := syncEpoch_fatal current finished
    exact Op.serves_of_refused (Op.Transition.refl s) failed same fun _ => rfl

private theorem resetAll_empty {lists : EventLists} {events : List EventId}
    (listed : events ∈ lists.resetAll.lists) : events = [] := by
  obtain ⟨_, _, same⟩ := List.mem_map.1 listed
  exact same.symm

/-- A pass begins with good handles: there are no events yet, and buffers and binaries are of the
epoch of the device. -/
theorem serves_startPass (tidy : s.machine.Tidy s.device) :
    Op.Serves startPass Safe Excused (fun _ t => MidPass t none) s := by
  have emptied : Safe s { s with machine.lists := s.machine.lists.resetAll } :=
    Session.safe_of_machine rfl (fun _ => rfl) rfl fun _ events listed e member => by
      rw [resetAll_empty listed] at member
      cases member
  refine Op.serves_modify_bind emptied (serves_syncEpoch.weaken fun _ t safe ⟨current, lists⟩ => ?_)
  refine ⟨safe.tidy (emptied.tidy tidy), ⟨current, fun events listed e member => ?_⟩, nofun⟩
  rw [lists] at listed
  rw [resetAll_empty listed] at member
  cases member

/-! ### Passes and warmups -/

private theorem serves_pass (tidy : s.machine.Tidy s.device) (warmup : Bool) :
    Op.Serves (pass warmup) Safe Excused (fun _ _ => True) s :=
  Op.serves_bind (serves_startPass tidy) fun _ _ _ passing =>
    Op.serves_get (serves_runEntries passing _)

private theorem serves_concludePass (warmup : Bool) (result : Except MachineError (Option EventId)) :
    Op.Serves (concludePass warmup result) Safe Excused (fun _ _ => True) s := by
  cases result with
  | error e => exact Op.serves_emit trivial
  | ok marker =>
    refine Op.serves_modify_bind ?_ (Op.serves_get (Op.serves_emit trivial))
    exact Session.safe_of_machine rfl (fun _ => rfl) rfl fun underway => underway.lists

/-- A pass keeps what the machine holds good, and without atomics it does not fail with an error about
a handle. -/
theorem serves_execute (tidy : s.machine.Tidy s.device) (mode : Mode) :
    Op.Serves (execute mode) Safe Excused (fun _ _ => True) s := by
  refine Op.serves_get (Op.serves_ite (fun _ => Op.serves_fail fun _ => rfl) fun _ => ?_)
  refine Op.serves_emit_bind ?_
  refine Op.serves_bind (Op.serves_attempt (serves_pass tidy _)) fun result t safe ⟨excused, _⟩ => ?_
  refine Op.serves_bind (serves_concludePass _ result) fun _ u concluded _ => Op.serves_emit_bind ?_
  refine Op.serves_ofExcept (fun e failed fair => ?_) fun _ _ => trivial
  exact ((excused e failed).later safe).later concluded fair

theorem safe_setFinished (finished : Bool) : Safe s { s with machine.finishedWarmup := finished } :=
  Session.safe_of_machine rfl (fun _ => rfl) rfl fun underway => underway.lists

theorem serves_warmup (tidy : s.machine.Tidy s.device) :
    Op.Serves warmup Safe Excused (fun _ _ => True) s :=
  Op.serves_modify_bind (safe_setFinished false)
    (Op.serves_bind (serves_execute ((safe_setFinished false).tidy tidy) .warmup) fun _ _ _ _ =>
      Op.serves_modify (safe_setFinished true) trivial)

/-! ### Releases and settings -/

theorem safe_freeDeviceMemory : Op.Moves freeDeviceMemory Safe :=
  Op.moves_bind Op.moves_get fun _ => moves_deallocAll safe_dealloc _

theorem safe_setConfig (config : Config) : Op.Moves (setConfig config) Safe := by
  refine Op.moves_bind (Op.moves_modify fun s => ?_) fun _ => ?_
  · dsimp only
    split
    · exact Session.safe_of_machine rfl (fun _ => rfl) rfl fun underway => underway.lists
    · refine Session.safe_of_machine rfl (fun _ => rfl) rfl fun _ events listed e member => ?_
      rw [(List.mem_replicate.1 listed).2] at member
      cases member
  · cases config.memoryLimit with
    | none => exact Op.moves_pure _
    | some limit => exact Op.moves_modify fun s => Session.safe_of_context Iff.rfl

theorem safe_setProfiler (profiler : Profiler) : Op.Moves (setProfiler profiler) Safe :=
  Op.moves_modify fun _ => Session.safe_of_machine rfl (fun _ => rfl) rfl fun underway => underway.lists

private theorem safe_forceRecompile (index : Nat) :
    Op.Moves (Session.modifyMachine fun m => { m with cache := m.cache.forceRecompile index }) Safe :=
  Op.moves_modify fun s =>
    safe_of_cache s.machine.stats fun tidy => CodeCache.dated_forceRecompile tidy.binaries index

theorem safe_setSchedule (schedule : GridSchedule) : Op.Moves (setSchedule schedule) Safe :=
  moves_setSchedule safe_forceRecompile fun _ =>
    Session.safe_of_machine rfl (fun _ => rfl) rfl fun underway => underway.lists

end Offload.Machine
