import Offload.Proofs.Alike
import Offload.Proofs.LiveHandles
import Offload.Proofs.Measurements

/-! Passes and the switches. Whether events are tracked, whether measurements are taken and instructions
logged, whether the device is flushed at the end and whether it completes its commands at once: none of
that feeds back into what a pass does to its data. A pass that succeeds also succeeds without
dependencies, whatever the other switches, and leaves the same data behind. -/
namespace Offload

namespace Session

variable {s t u : Session} {α β : Type}

/-- The second session holds the data of the first one. It does not track events, and those of its
device are in order. -/
structure Shadows (s t : Session) : Prop where
  data : s.data = t.data
  plain : t.machine.config.useDependencies = false
  sound : t.device.events.Sound

private theorem Shadows.context (shadows : Shadows s t) : s.context = t.context :=
  view_of_data _ (fun _ => rfl) shadows.data

private theorem Shadows.bindings (shadows : Shadows s t) : s.machine.bindings = t.machine.bindings :=
  view_of_data (fun s => s.machine.bindings) (fun _ => rfl) shadows.data

private theorem Shadows.boundBuffer (shadows : Shadows s t) (use : BufferUse) (object : Nat) :
    s.machine.boundBuffer use object = t.machine.boundBuffer use object :=
  view_of_data (fun s => s.machine.boundBuffer use object) (fun _ => rfl) shadows.data

private theorem Shadows.cache (shadows : Shadows s t) : s.machine.cache = t.machine.cache :=
  view_of_data (fun s => s.machine.cache) (fun _ => rfl) shadows.data

private theorem Shadows.device (shadows : Shadows s t) : Device.Shadows s.device t.device :=
  ⟨congrArg Session.device shadows.data, shadows.sound⟩

private theorem Shadows.size (shadows : Shadows s t) : s.machine.lists.size = t.machine.lists.size := by
  refine view_of_data (fun s => s.machine.lists.size) (fun s => ?_) shadows.data
  simp [Session.data, EventLists.resetAll, EventLists.size]

private theorem Shadows.left (shadows : Shadows s t) (quiet : Quiet s u) : Shadows u t :=
  ⟨quiet.data.trans shadows.data, shadows.plain, shadows.sound⟩

private theorem Shadows.right (shadows : Shadows s t) (quiet : Quiet t u)
    (later : t.device.events.Later u.device.events) : Shadows s u :=
  ⟨shadows.data.trans quiet.data.symm, quiet.config ▸ shadows.plain, later.sound⟩

/-! ### Parts of the work -/

/-- No promise about results. -/
abbrev Any (_ : α) (_ : β) (_ : Session) : Prop :=
  True

private theorem echo_change {change : Session → Session} (blind : ∀ s, (change s).data = change s.data)
    (plain : ∀ s, (change s).machine.config = s.machine.config)
    (events : ∀ s, (change s).device = s.device) (shadows : Shadows s t) :
    Op.Echoes (Op.modify change : MachineOp Unit) (Op.modify change : MachineOp Unit) Shadows Any s t := by
  refine Op.echoes_modify ⟨?_, ?_, ?_⟩ trivial
  · rw [blind s, blind t, shadows.data]
  · rw [plain]
    exact shadows.plain
  · rw [events]
    exact shadows.sound

/-- Quiet work on both sides, if that of the second side goes through. -/
theorem echo_quiet {op : MachineOp α} {op' : MachineOp β} (first : Op.Moves op Quiet)
    (second : Op.Moves op' Quiet) (walk : Op.Moves op' (Via Device.Steady))
    (goes : Op.Goes op' t) (shadows : Shadows s t) : Op.Echoes op op' Shadows Any s t := by
  intro a u ran
  obtain ⟨b, v, ran', _⟩ := goes
  have later := walk.yields ran' shadows.sound
  exact ⟨b, v, ran', (shadows.left (first.yields ran)).right (second.yields ran') later, trivial⟩

private theorem echo_modifyProfiler (change change' : Profiler → Profiler) (shadows : Shadows s t) :
    Op.Echoes (modifyProfiler change) (modifyProfiler change') Shadows Any s t :=
  Op.echoes_modify ⟨shadows.data, shadows.plain, shadows.sound⟩ trivial

private theorem echo_onDevice {op : DeviceOp α} {op' : DeviceOp β} {V : α → β → Device → Prop}
    (head : Op.Echoes op op' Device.Shadows V s.device t.device) (shadows : Shadows s t) :
    Op.Echoes (onDevice op) (onDevice op') Shadows (fun a b t => V a b t.device) s t := by
  refine Op.echoes_onPart (Op.echoes_mapError head) (fun d d' device => ?_) fun _ _ _ holds => holds
  refine ⟨?_, shadows.plain, device.sound⟩
  show ({ s.data with device := d.data } : Session) = { t.data with device := d'.data }
  rw [shadows.data, device.data]

/-- Events that were good before a step of the second side are good after it. -/
theorem knows_echoed {op : MachineOp α} {a : α} {e : EventId} (walk : Op.Moves op (Via Device.Steady))
    (ran : Op.Yields op t a u) (shadows : Shadows s t) (known : t.device.events.Knows e) :
    u.device.events.Knows e :=
  (walk.yields ran shadows.sound).knows e known

end Session

namespace Machine
open Session (Shadows Any echo_change echo_quiet echo_modifyProfiler echo_onDevice knows_echoed)

variable {s t u : Session} {α : Type}

/-! ### Event lists -/

/-- The second side empties a list wherever the first one does. -/
theorem echo_resetList (list : Option UInt32) (shadows : Shadows s t) :
    Op.Echoes (resetList list) (resetList list) Shadows Any s t := by
  intro u after ran
  rw [resetList, Op.yields_step] at ran
  rcases emptied : s.machine.lists.reset (list.map UInt32.toNat) with e | lists <;>
    rw [emptied] at ran <;> cases ran
  have reset : ∃ lists', t.machine.lists.reset (list.map UInt32.toNat) = .ok lists' ∧
      lists.resetAll = s.machine.lists.resetAll ∧ lists'.resetAll = t.machine.lists.resetAll := by
    rcases EventLists.reset_ok_iff.1 emptied with ⟨none, rfl⟩ | ⟨index, old, named, found, rfl⟩
    · exact ⟨_, EventLists.reset_ok_iff.2 (.inl ⟨none, rfl⟩), rfl, rfl⟩
    · have inside : index < t.machine.lists.size := by
        rw [← shadows.size]
        exact (List.getElem?_eq_some_iff.1 found).1
      refine ⟨_, EventLists.reset_ok_iff.2 (.inr ⟨index, _, named, List.getElem?_eq_getElem inside, rfl⟩),
        resetAll_set _ _ _, resetAll_set _ _ _⟩
  obtain ⟨lists', emptied', same, same'⟩ := reset
  refine ⟨(), { t with machine.lists := lists' }, ?_, ⟨?_, shadows.plain, shadows.sound⟩, trivial⟩
  · rw [resetList, Op.yields_step, emptied']
    rfl
  · show ({ s.data with machine.lists := lists.resetAll } : Session) =
      { t.data with machine.lists := lists'.resetAll }
    rw [same, same', ← show s.data.machine.lists = s.machine.lists.resetAll from rfl,
      ← show t.data.machine.lists = t.machine.lists.resetAll from rfl, shadows.data]

/-- The second side waits for nothing. -/
theorem echo_waitList (list : Option UInt32) (shadows : Shadows s t) :
    Op.Echoes (waitList list) (waitList list) Shadows (fun _ wait _ => wait = []) s t := by
  intro wait after ran
  simp only [waitList, Op.yields_bind, Op.yields_get, Op.yields_ofExcept] at ran
  obtain ⟨_, _, ⟨rfl, rfl⟩, _, rfl⟩ := ran
  refine ⟨[], t, ?_, shadows, rfl⟩
  simp only [waitList, Op.yields_bind, Op.yields_get, Op.yields_ofExcept]
  refine ⟨t, t, ⟨rfl, rfl⟩, ?_, rfl⟩
  rw [shadows.plain]
  cases list <;> rfl

/-- The second side adds no dependencies. -/
theorem echo_addDependency (last last' : Option EventId) (list : Option UInt32) (shadows : Shadows s t) :
    Op.Echoes (addDependency last list) (addDependency last' list) Shadows Any s t := by
  refine echo_quiet (quiet_addDependency _ _) (quiet_addDependency _ _) (moves_addDependency _ _)
    (Op.reaches_get ?_) shadows
  rw [shadows.plain]
  exact Op.reaches_pure trivial

/-- Either side may measure its copies. -/
theorem echo_profileTransfer {events events' : List EventId} {timer timer' : TimerKind}
    {metric metric' : MetricKind} {object object' bytes bytes' : Nat} (shadows : Shadows s t)
    (known : ∀ e ∈ events', t.device.events.Knows e) :
    Op.Echoes (profileTransfer events timer metric object bytes)
      (profileTransfer events' timer' metric' object' bytes') Shadows Any s t :=
  echo_quiet (moves_profileTransfer _ _ _ _ _) (moves_profileTransfer _ _ _ _ _)
    (moves_profileTransfer _ _ _ _ _)
    (profileTransfer_goes shadows.sound known) shadows

/-! ### Buffers -/

private theorem echo_bindAll (pairs : List (BufferRequest × DeviceBuffer)) (shadows : Shadows s t) :
    Op.Echoes (bindAll pairs) (bindAll pairs) Shadows Any s t := by
  induction pairs generalizing s t with
  | nil => exact Op.echoes_pure shadows trivial
  | cons pair rest ih =>
    refine Op.echoes_bind (echo_change (fun _ => rfl) (fun _ => rfl) (fun _ => rfl) shadows)
      fun _ _ s t _ shadows _ => ?_
    exact Op.echoes_bind (echo_modifyProfiler _ _ shadows) fun _ _ s t _ shadows _ => ih shadows

private theorem echo_alloc (batchSize : Nat) (objects : List UInt32) (shadows : Shadows s t) :
    Op.Echoes (alloc batchSize objects) (alloc batchSize objects) Shadows Any s t := by
  refine Op.echoes_get ?_
  rw [shadows.context, shadows.bindings]
  refine Op.echoes_same_bind fun requests _ => ?_
  refine Op.echoes_ite (fun _ => Op.echoes_pure shadows trivial) fun _ => Op.echoes_same_bind fun _ _ => ?_
  refine Op.echoes_bind (echo_onDevice (Device.echo_allocate _ shadows.device) shadows)
    fun buffers _ s t _ shadows same => ?_
  subst same
  refine Op.echoes_bind (echo_change (fun _ => rfl) (fun _ => rfl) (fun _ => rfl) shadows)
    fun _ _ s t _ shadows _ => ?_
  exact Op.echoes_bind (echo_bindAll _ shadows) fun _ _ s t _ shadows _ => Op.echoes_emit shadows trivial

private theorem echo_dealloc (object : Nat) (shadows : Shadows s t) :
    Op.Echoes (dealloc object) (dealloc object) Shadows Any s t := by
  refine Op.echoes_get ?_
  rw [shadows.context, shadows.bindings]
  refine Op.echoes_same_bind fun entry _ => Op.echoes_same_bind fun binding _ => ?_
  cases binding.buffer with
  | none =>
    exact Op.echoes_ite
      (fun _ => Op.echoes_bind (V := Any) (Op.echoes_pure shadows trivial) fun _ _ s t _ shadows _ =>
        Op.echoes_pure shadows trivial)
      fun _ => Op.echoes_emit_bind (Op.echoes_pure shadows trivial)
  | some buffer =>
    refine Op.echoes_bind (echo_onDevice (Device.echo_deallocate _ shadows.device) shadows)
      fun freed _ s t _ shadows same => ?_
    subst same
    refine Op.echoes_bind (echo_change (fun _ => rfl) (fun _ => rfl) (fun _ => rfl) shadows)
      fun _ _ s t _ shadows _ => ?_
    refine Op.echoes_bind (echo_change (fun _ => rfl) (fun _ => rfl) (fun _ => rfl) shadows)
      fun _ _ s t _ shadows _ => ?_
    exact Op.echoes_emit_bind (Op.echoes_pure shadows trivial)

/-! ### Copies -/

private theorem echo_transferIn (transfer : Transfer) (once : Bool) (shadows : Shadows s t) :
    Op.Echoes (transferIn transfer once) (transferIn transfer once) Shadows Any s t := by
  refine Op.echoes_get ?_
  dsimp only
  rw [shadows.context, shadows.bindings, shadows.boundBuffer]
  refine Op.echoes_same_bind fun entry _ => ?_
  refine Op.echoes_ite (fun _ => Op.echoes_pure shadows trivial) fun _ => ?_
  refine Op.echoes_same_bind fun buffer _ => Op.echoes_same_bind fun binding _ => ?_
  refine Op.echoes_ite (fun _ => echo_resetList _ shadows) fun _ => Op.echoes_same_bind fun range _ => ?_
  refine Op.echoes_bind (echo_waitList _ shadows) fun wait _ s t _ shadows none => ?_
  subst none
  refine Op.echoes_bind (echo_onDevice (Device.echo_streamIn _ _ _ _ shadows.device) shadows)
    fun events events' s t _ shadows known => ?_
  have rest {s t : Session} (shadows : Shadows s t) (known : ∀ e ∈ events', t.device.events.Knows e) :
      Op.Echoes
        (do
          resetList transfer.list
          profileTransfer events .copyIn .copyInBytes transfer.object.toNat range.size)
        (do
          resetList transfer.list
          profileTransfer events' .copyIn .copyInBytes transfer.object.toNat range.size) Shadows Any s t := by
    refine Op.echoes_bind (echo_resetList _ shadows) fun _ _ s' t' ran shadows' _ => ?_
    exact echo_profileTransfer shadows' fun e member =>
      knows_echoed (moves_resetList _) ran shadows (known e member)
  refine Op.echoes_ite (fun _ => ?_) fun _ => rest shadows known
  refine Op.echoes_bind (echo_change (fun _ => rfl) (fun _ => rfl) (fun _ => rfl) shadows)
    fun _ _ s' t' ran shadows' _ => rest shadows' fun e member => ?_
  exact knows_echoed (via_modifyMachine _) ran shadows (known e member)

private theorem echo_onObject {index : Nat} {object : HostObject} {op op' : Device.CopyOut α}
    {V : α → α → HostObject × Device → Prop} {W : α → α → Device → Prop}
    (head : Op.Echoes op op' Device.CopyShadows V (object, s.device) (object, t.device))
    (values : ∀ a b y, V a b y → W a b y.2) (shadows : Shadows s t) :
    Op.Echoes (onObject index object op) (onObject index object op') Shadows
      (fun a b t => W a b t.device) s t := by
  refine Op.echoes_onPart (Op.echoes_mapError head) (fun x y copies => ?_) fun a b y holds => values a b y holds
  obtain ⟨same, device⟩ := copies
  refine ⟨?_, shadows.plain, device.sound⟩
  show ({ s.data with context := s.context.setObject index x.1, device := x.2.data } : Session) =
    { t.data with context := t.context.setObject index y.1, device := y.2.data }
  rw [shadows.data, shadows.context, same, device.data]

private theorem echo_transferOut (transfer : Transfer) (blocking : Bool) (shadows : Shadows s t) :
    Op.Echoes (transferOut transfer blocking) (transferOut transfer blocking) Shadows Any s t := by
  refine Op.echoes_get ?_
  dsimp only
  rw [shadows.context, shadows.boundBuffer]
  refine Op.echoes_same_bind fun entry _ => ?_
  refine Op.echoes_ite (fun _ => Op.echoes_pure shadows trivial) fun _ => ?_
  refine Op.echoes_same_bind fun buffer _ => Op.echoes_same_bind fun range _ => ?_
  refine Op.echoes_bind (echo_waitList _ shadows) fun wait _ s t _ shadows none => ?_
  subst none
  refine Op.echoes_bind (echo_onObject (W := Device.Fresh) (Op.echoes_ite
    (fun _ => Device.echo_streamOutBlocking _ _ _ ⟨rfl, shadows.device⟩)
    fun _ => Device.echo_streamOut _ _ _ ⟨rfl, shadows.device⟩) (fun _ _ _ fresh => fresh) shadows)
    fun event event' s t _ shadows fresh => ?_
  refine Op.echoes_bind (echo_resetList _ shadows) fun _ _ s' t' ran shadows' _ => ?_
  refine Op.echoes_bind (echo_profileTransfer shadows' fun e member => ?_)
    fun _ _ s t _ shadows _ => Op.echoes_pure shadows trivial
  rw [List.mem_singleton.1 member]
  exact knows_echoed (moves_resetList _) ran shadows fresh

/-! ### Launches -/

private theorem echo_syncEpoch (shadows : Shadows s t) : Op.Echoes syncEpoch syncEpoch Shadows Any s t := by
  have current : s.device.epoch = t.device.epoch :=
    Session.view_of_data (fun s => s.device.epoch) (fun _ => rfl) shadows.data
  have known : s.machine.epoch = t.machine.epoch :=
    Session.view_of_data (fun s => s.machine.epoch) (fun _ => rfl) shadows.data
  have finished : s.machine.finishedWarmup = t.machine.finishedWarmup :=
    Session.view_of_data (fun s => s.machine.finishedWarmup) (fun _ => rfl) shadows.data
  refine Op.echoes_get ?_
  rw [current, known, finished]
  refine Op.echoes_ite (fun _ => Op.echoes_pure shadows trivial) fun _ => ?_
  refine Op.echoes_ite (fun _ => Op.echoes_fail) fun _ => Op.echoes_emit_bind ?_
  refine Op.echoes_bind (V := Any) (Op.echoes_get ?_) fun _ _ s t _ shadows _ => ?_
  · dsimp only
    rw [shadows.bindings]
    refine Op.echoes_bind (echo_change (fun _ => rfl) (fun _ => rfl) (fun _ => rfl) shadows)
      fun _ _ s t _ shadows _ => ?_
    exact Op.echoes_bind (echo_change (fun _ => rfl) (fun _ => rfl) (fun _ => rfl) shadows)
      fun _ _ s t _ shadows _ => Op.echoes_pure shadows trivial
  refine Op.echoes_bind (echo_change (fun _ => rfl) (fun _ => rfl) (fun _ => rfl) shadows)
    fun _ _ s t _ shadows _ => ?_
  exact echo_change (fun _ => rfl) (fun _ => rfl) (fun _ => rfl) shadows

private theorem echo_buildCode (index : Nat) (task : Task) (shadows : Shadows s t) :
    Op.Echoes (buildCode index task) (buildCode index task) Shadows Any s t := by
  have schedule : s.machine.schedule = t.machine.schedule :=
    Session.view_of_data (fun s => s.machine.schedule) (fun _ => rfl) shadows.data
  refine Op.echoes_get ?_
  dsimp only
  rw [shadows.cache, schedule]
  refine Op.echoes_attempt_bind (echo_onDevice (Device.echo_installCode _ shadows.device) shadows) ?_
    fun code _ s t _ shadows same => ?_
  · intro e s c u ran
    obtain ⟨_, _, _, ran⟩ := Op.yields_bind.1 ran
    exact Op.yields_fail ran
  subst same
  refine Op.echoes_emit_bind ?_
  refine Op.echoes_bind (echo_modifyProfiler _ _ shadows) fun _ _ s t _ shadows _ => ?_
  exact echo_change (fun _ => rfl) (fun _ => rfl) (fun _ => rfl) shadows

private theorem echo_compile (l : Launch) (shadows : Shadows s t) :
    Op.Echoes (compile l) (compile l) Shadows Any s t := by
  refine Op.echoes_bind (echo_syncEpoch shadows) fun _ _ s t _ shadows _ => Op.echoes_get ?_
  dsimp only
  rw [shadows.context, shadows.cache]
  refine Op.echoes_same_bind fun task _ => ?_
  refine Op.echoes_bind (echo_change (fun _ => rfl) (fun _ => rfl) (fun _ => rfl) shadows)
    fun _ _ s t _ shadows _ => ?_
  have built {due : Prop} [Decidable due] :
      Op.Echoes (if due then buildCode l.task.toNat task else pure ())
        (if due then buildCode l.task.toNat task else pure ()) Shadows Any s t :=
    Op.echoes_ite (fun _ => echo_buildCode _ _ shadows) fun _ => Op.echoes_pure shadows trivial
  exact Op.echoes_ite (fun _ => Op.echoes_emit_bind built) fun _ => built

private theorem echo_installedCode (l : Launch) (shadows : Shadows s t) :
    Op.Echoes (installedCode l) (installedCode l) Shadows (fun a b _ => a = b) s t := by
  refine Op.echoes_get ?_
  rw [shadows.context, shadows.cache]
  exact Op.echoes_same_bind fun task _ => Op.echoes_same shadows fun _ _ => rfl

/-- A bound launch that waits for nothing, and is the same otherwise. -/
def BoundLaunch.Prompt (b b' : BoundLaunch) : Prop :=
  b' = { b with wait := [] }

private theorem echo_sendAtomics (values : List Int32) (shadows : Shadows s t) :
    Op.Echoes (sendAtomics values) (sendAtomics values) Shadows (fun a b _ => a.1 = b.1) s t := by
  refine Op.echoes_ite (fun _ => Op.echoes_pure shadows rfl) fun _ => ?_
  refine Op.echoes_bind (echo_onDevice (Device.echo_writeAtomics _ shadows.device) shadows)
    fun written written' s t _ shadows same => ?_
  exact Op.echoes_pure shadows (congrArg some same)

private theorem echo_bindLaunch (l : Launch) (shadows : Shadows s t) :
    Op.Echoes (bindLaunch l) (bindLaunch l) Shadows (fun b b' _ => b.Prompt b') s t := by
  have frames : s.machine.frames = t.machine.frames :=
    Session.view_of_data (fun s => s.machine.frames) (fun _ => rfl) shadows.data
  have schedule : s.machine.schedule = t.machine.schedule :=
    Session.view_of_data (fun s => s.machine.schedule) (fun _ => rfl) shadows.data
  refine Op.echoes_get ?_
  dsimp only
  rw [shadows.context, bindArgs_congr _ shadows.bindings, frames, schedule, shadows.plain]
  refine Op.echoes_same_bind fun task _ => ?_
  refine Op.echoes_bind (echo_change (fun _ => rfl) (fun _ => rfl) (fun _ => rfl) shadows)
    fun _ _ s t _ shadows _ => Op.echoes_same_bind fun bound _ => ?_
  refine Op.echoes_bind (echo_waitList _ shadows) fun wait _ s t _ shadows none => ?_
  subst none
  refine Op.echoes_bind (echo_sendAtomics _ shadows) fun sent sent' s t _ shadows same => ?_
  obtain ⟨atomics, written⟩ := sent
  obtain ⟨_, written'⟩ := sent'
  cases same
  exact Op.echoes_pure shadows rfl

private theorem echo_enqueue (l : Launch) (code : Binary) {b b' : BoundLaunch} (prompt : b.Prompt b')
    (shadows : Shadows s t) : Op.Echoes (enqueue l code b) (enqueue l code b') Shadows Any s t := by
  subst prompt
  refine Op.echoes_attempt_bind (echo_onDevice (Device.echo_launch _ _ _ _ _ _ shadows.device) shadows) ?_
    fun event event' s t _ shadows fresh => ?_
  · intro e s c u ran
    obtain ⟨_, _, _, ran⟩ := Op.yields_bind.1 ran
    exact Op.yields_fail ran
  refine Op.echoes_bind (echo_change (fun _ => rfl) (fun _ => rfl) (fun _ => rfl) shadows)
    fun _ _ s t framed shadows₁ _ => ?_
  have known := knows_echoed (via_modifyMachine _) framed shadows fresh
  refine Op.echoes_bind (echo_resetList _ shadows₁) fun _ _ s t emptied shadows₂ _ => ?_
  have known := knows_echoed (moves_resetList _) emptied shadows₁ known
  exact echo_quiet (moves_measureLaunch b.task.id event) (moves_measureLaunch b.task.id event')
    (moves_measureLaunch _ _) (measureLaunch_goes shadows₂.sound known)
    shadows₂

private theorem echo_dispatch (l : Launch) (shadows : Shadows s t) :
    Op.Echoes (dispatch l) (dispatch l) Shadows Any s t := by
  refine Op.echoes_bind (echo_installedCode l shadows) fun code _ s t _ shadows same => ?_
  subst same
  exact Op.echoes_bind (echo_bindLaunch l shadows) fun b b' s t _ shadows prompt =>
    echo_enqueue l code prompt shadows

/-! ### Passes -/

private theorem echo_barrier (list : Option UInt32) (shadows : Shadows s t) :
    Op.Echoes (barrier list) (barrier list) Shadows Any s t := by
  refine Op.echoes_bind (echo_waitList _ shadows) fun wait _ s t _ shadows none => ?_
  subst none
  refine Op.echoes_bind (echo_quiet (moves_onDevice (Device.still_enqueueMarker _))
    (moves_onDevice (Device.still_enqueueMarker _))
    (moves_onDevice (Device.survives_steady.enqueueMarker _)) (enqueueMarker_goes shadows.sound) shadows)
    fun _ _ s t _ shadows _ => Op.echoes_emit_bind ?_
  exact Op.echoes_bind (echo_resetList _ shadows) fun _ _ s t _ shadows _ => Op.echoes_pure shadows trivial

private theorem echo_keepOnDevice (object : Nat) (shadows : Shadows s t) :
    Op.Echoes (keepOnDevice object) (keepOnDevice object) Shadows Any s t := by
  refine Op.echoes_get ?_
  rw [shadows.context]
  exact Op.echoes_same_bind fun _ _ => Op.echoes_emit shadows trivial

private theorem echo_endPass (warmup : Bool) (shadows : Shadows s t) :
    Op.Echoes (endPass warmup) (endPass warmup) Shadows Any s t :=
  Op.echoes_ite (fun _ => Op.echoes_pure shadows trivial) fun _ =>
    echo_quiet moves_endRun moves_endRun moves_endRun
      (endRun_goes shadows.sound) shadows

/-- Each instruction, whatever event a dependency would be added for. -/
theorem echo_runInstruction (last last' : Option EventId) (offset : Nat) (i : Instruction)
    (shadows : Shadows s t) :
    Op.Echoes (runInstruction last offset i) (runInstruction last' offset i) Shadows Any s t := by
  cases i with
  | alloc batchSize objects =>
    exact Op.echoes_bind (echo_alloc _ _ shadows) fun _ _ s t _ shadows _ => Op.echoes_pure shadows trivial
  | dealloc object =>
    exact Op.echoes_bind (echo_dealloc _ shadows) fun _ _ s t _ shadows _ => Op.echoes_pure shadows trivial
  | transfer kind operands =>
    cases kind with
    | inOnce | inAlways =>
      exact Op.echoes_bind (echo_transferIn _ _ shadows) fun _ _ s t _ shadows _ =>
        Op.echoes_pure shadows trivial
    | outAlways => exact echo_transferOut _ _ shadows
    | outBlocking =>
      exact Op.echoes_bind (echo_transferOut _ _ shadows) fun _ _ s t _ shadows _ =>
        Op.echoes_pure shadows trivial
  | launch l =>
    exact Op.echoes_bind (echo_compile l shadows) fun _ _ s t _ shadows _ =>
      Op.echoes_map (echo_dispatch l shadows) fun _ _ _ _ => trivial
  | addDependency list =>
    exact Op.echoes_bind (echo_addDependency _ _ _ shadows) fun _ _ s t _ shadows _ =>
      Op.echoes_pure shadows trivial
  | onDevice object =>
    exact Op.echoes_bind (echo_keepOnDevice _ shadows) fun _ _ s t _ shadows _ =>
      Op.echoes_pure shadows trivial
  | barrier list => exact Op.echoes_map (echo_barrier _ shadows) fun _ _ _ _ => trivial
  | context device => exact Op.echoes_fail
  | beginPass => exact Op.echoes_fail
  | endPass => exact Op.echoes_pure shadows trivial

private theorem echo_stepEntry (warmup : Bool) (last last' : Option EventId) (entry : Entry)
    (shadows : Shadows s t) :
    Op.Echoes (stepEntry warmup last entry) (stepEntry warmup last' entry) Shadows Any s t := by
  refine Op.echoes_ite (fun _ => ?_) fun _ => echo_runInstruction _ _ _ _ shadows
  refine Op.echoes_bind (V := Any) ?_ fun _ _ s t _ shadows _ => Op.echoes_pure shadows trivial
  cases entry.instruction with
  | launch l => exact echo_compile l shadows
  | context device => exact Op.echoes_fail
  | beginPass => exact Op.echoes_fail
  | _ => exact Op.echoes_pure shadows trivial

private theorem echo_traceEntry (warmup : Bool) (entry : Entry) (shadows : Shadows s t) :
    Op.Echoes (traceEntry warmup entry) (traceEntry warmup entry) Shadows Any s t :=
  echo_quiet (moves_traceEntry _ _) (moves_traceEntry _ _) (moves_traceEntry _ _)
    ⟨(), t, traceEntry_yields, trivial⟩ shadows

/-- A run up to its end, by induction on its instructions. -/
theorem echo_runEntries (warmup : Bool) (stop : ScanStop) (last last' : Option EventId)
    (entries : List Entry) (shadows : Shadows s t) :
    Op.Echoes (runEntries warmup stop last entries) (runEntries warmup stop last' entries) Shadows Any s t := by
  induction entries generalizing last last' s t with
  | nil =>
    cases stop with
    | failed e => exact Op.echoes_fail
    | exhausted offset => exact echo_endPass warmup shadows
    | ended => exact echo_endPass warmup shadows
  | cons entry rest ih =>
    refine Op.echoes_bind (echo_traceEntry _ _ shadows) fun _ _ s t _ shadows _ => ?_
    refine Op.echoes_ite (fun _ => echo_endPass warmup shadows) fun _ => ?_
    exact Op.echoes_bind (echo_stepEntry _ last last' _ shadows) fun last last' s t _ shadows _ =>
      ih last last' shadows

private theorem echo_pass (warmup : Bool) (shadows : Shadows s t) :
    Op.Echoes (pass warmup) (pass warmup) Shadows Any s t := by
  have program {s t : Session} (shadows : Shadows s t) : s.machine.program = t.machine.program :=
    Session.view_of_data (fun s => s.machine.program) (fun _ => rfl) shadows.data
  refine Op.echoes_bind (V := Any) (Op.echoes_bind (V := Any)
    (echo_quiet quiet_resetAll quiet_resetAll (via_modifyMachine _) ⟨(), _, Op.yields_modify.2 rfl, trivial⟩ shadows)
    fun _ _ s t _ shadows _ => echo_syncEpoch shadows) fun _ _ s t _ shadows _ => Op.echoes_get ?_
  rw [program shadows]
  exact echo_runEntries _ _ _ _ _ shadows

private theorem echo_execute (mode : Mode) (shadows : Shadows s t) :
    Op.Echoes (execute mode) (execute mode) Shadows Any s t := by
  have virtual : s.machine.config.virtualDevice = t.machine.config.virtualDevice :=
    Session.view_of_data (fun s => s.machine.config.virtualDevice) (fun _ => rfl) shadows.data
  refine Op.echoes_get ?_
  dsimp only
  rw [shadows.context, virtual]
  refine Op.echoes_ite (fun _ => Op.echoes_fail) fun _ => Op.echoes_emit_bind ?_
  refine Op.echoes_attempt_bind (echo_pass _ shadows) (fun e s c u ran => ?_)
    fun last last' s t _ shadows _ => ?_
  · obtain ⟨_, _, _, ran⟩ := Op.yields_bind.1 ran
    obtain ⟨_, _, _, ran⟩ := Op.yields_bind.1 ran
    exact Op.yields_fail ran
  · refine Op.echoes_bind (V := Any) (Op.echoes_bind
      (echo_change (fun _ => rfl) (fun _ => rfl) (fun _ => rfl) shadows) fun _ _ s t _ shadows _ =>
        Op.echoes_get (Op.echoes_emit shadows trivial)) fun _ _ s t _ shadows _ => ?_
    exact Op.echoes_emit_bind (Op.echoes_pure shadows trivial)

end Machine

/-- What is logged and measured, whether events are tracked and the device is flushed, and whether the
device completes its commands later. -/
structure Switches where
  useDependencies : Bool
  flushOnEnd : Bool
  traceCode : Bool
  profile : Bool
  profiler : Profiler
  deferred : Bool

/-- The same session under other switches. -/
def Session.switched (s : Session) (switches : Switches) : Session :=
  { s with
    device.events.deferred := switches.deferred
    machine.profiler := switches.profiler
    machine.config.useDependencies := switches.useDependencies
    machine.config.flushOnEnd := switches.flushOnEnd
    machine.config.traceCode := switches.traceCode
    machine.config.profiler := switches.profile }

private theorem Session.shadows_switched {s : Session} {switches : Switches} (sound : s.device.events.Sound)
    (plain : switches.useDependencies = false) : s.Shadows (s.switched switches) :=
  ⟨rfl, plain, sound.retired, sound.issued, sound.held, sound.range, sound.deps, sound.frontier,
    sound.lastFull⟩

namespace Pool

variable {permits : DeviceCommand → Prop} {p : Pool} {index : Nat} {tenant : Tenant} {s : Session}

private theorem sound_of_reachable (reachable : p.Reachable permits) : ∀ d ∈ p.devices, d.events.Sound :=
  devices_of_reachable Device.survives_steady (Device.moves_within Device.only_ensureLoaded (by decide))
    (fun _ _ steady sound => (steady sound).sound) (fun _ deferred => EventTable.sound_start deferred)
    (fun command _ _ sound => Device.events_sound_command command sound) reachable

/-- However a pool came about: a pass of a machine that succeeds also succeeds when events are not
tracked, whatever is measured and logged and however the device completes its commands. The host
objects, the budget, the device memory, the bindings and the binaries are the same after it. -/
theorem switches_keep_results (reachable : p.Reachable permits)
    (present : p.session? index = some (tenant, s)) (switches : Switches)
    (plain : switches.useDependencies = false) {mode : Mode} {last : Option EventId} {t : Session}
    (ran : Op.Yields (Machine.execute mode) s last t) :
    ∃ last' t', Op.Yields (Machine.execute mode) (s.switched switches) last' t' ∧
      t'.context = t.context ∧ t'.device.memory = t.device.memory ∧
      t'.machine.bindings = t.machine.bindings ∧ t'.machine.cache = t.machine.cache := by
  obtain ⟨_, _, found, _⟩ := session?_eq_some.1 present
  have sound := sound_of_reachable reachable s.device (List.mem_of_getElem? found)
  obtain ⟨last', t', ran', shadows, _⟩ :=
    Machine.echo_execute mode (Session.shadows_switched sound plain) last t ran
  have memory : t.device.memory = t'.device.memory :=
    Device.view_of_data _ (fun _ => rfl) shadows.device.data
  exact ⟨last', t', ran', shadows.context.symm, memory.symm, shadows.bindings.symm, shadows.cache.symm⟩

/-- A run without events on a device that completes its commands at once; it is measured and logged. -/
def watched : Switches :=
  { useDependencies := false
    flushOnEnd := true
    traceCode := true
    profile := true
    profiler := .on {}
    deferred := false }

/-- The first machine tracks events, and its device is a deferred one. With or without that, its run adds
one to each element. -/
theorem takingTurns_watched : ∃ tenant s last t last' t',
    takingTurns.session? 0 = some (tenant, s) ∧ s.machine.config.useDependencies = true ∧
      s.device.events.deferred = true ∧ Op.Yields (Machine.execute .run) s last t ∧
      t.context.objects.map ObjectEntry.object = [.array ⟨.i32, List.flatten (List.replicate 4 [2, 0, 0, 0])⟩] ∧
      Op.Yields (Machine.execute .run) (s.switched watched) last' t' ∧ t'.context = t.context := by
  have facts : (takingTurns.session? 0).map (fun seated =>
      (seated.2.machine.config.useDependencies, seated.2.device.events.deferred,
        seated.2.context.memory.exceeded, seated.2.machine.config.virtualDevice,
        seated.2.machine.program.scan.entries.drop 5)) =
      some (true, true, false, false, [⟨128, .endPass⟩]) := by decide +kernel
  have arrives : (takingTurns.session? 0).map (fun seated => (Op.success? (do
        Machine.startPass
        Machine.runPrefix false none (seated.2.machine.program.scan.entries.take 5)) seated.2).map
        fun arrived => arrived.2.context.objects.map ObjectEntry.object) =
      some (some [.array ⟨.i32, List.flatten (List.replicate 4 [2, 0, 0, 0])⟩]) := by decide +kernel
  obtain ⟨⟨tenant, s⟩, present, same⟩ := Option.map_eq_some_iff.1 facts
  rw [present] at arrives
  simp only [Prod.mk.injEq, Option.map_some, Option.some.injEq, Option.map_eq_some_iff] at same arrives
  obtain ⟨tracked, deferred, within, real, final⟩ := same
  obtain ⟨⟨last, front⟩, arrived, doubled⟩ := arrives
  have arrives : Machine.Arrives s _ last front := Op.yields_iff_success?.2 arrived
  have sound := sound_of_reachable takingTurns_reachable s.device
    (List.mem_of_getElem? (session?_eq_some.1 present).2.2.1)
  have split := (List.take_append_drop 5 s.machine.program.scan.entries).symm
  rw [final] at split
  obtain ⟨last, t, ran, context, _⟩ := Machine.execute_of_arrives within real split arrives
    (Machine.via_arrives Device.survives_steady arrives sound).sound
  obtain ⟨last', t', ran', context', _⟩ := switches_keep_results takingTurns_reachable present watched rfl ran
  exact ⟨tenant, s, last, t, last', t', present, tracked, deferred, ran, context ▸ doubled, ran', context'⟩

end Pool
end Offload
