import Offload.Proofs.BlindKernels
import Offload.Proofs.Shadows
import Offload.Proofs.Spared

/-! Devices that stand in for one another. They agree on what they are and on what the buffers hold that a
machine uses on either side; they differ in the other buffers, in their events and in their records.
Asked for the same work, with handles of their own, they give the same answers. -/
namespace Offload.Device

variable {P : BufferId → BufferId → Prop} {d d' after after' : Device} {wait wait' : List EventId} {α : Type}

/-- A device apart from its memory, its events and its records. -/
def settings (d : Device) : Device :=
  { info := d.info, kernels := d.kernels, failing := d.failing, epoch := d.epoch }

private theorem settings_of_keeps (keeps : Keeps d after) : after.settings = d.settings := by
  unfold settings
  rw [keeps.info, keeps.kernels, keeps.failing, keeps.epoch]

/-- The devices have the same settings, and buffers that are a pair are the same. -/
structure Mirrors (P : BufferId → BufferId → Prop) (d d' : Device) : Prop where
  same : d.settings = d'.settings
  agree : d.memory.Agree P d'.memory

/-- The device can wait for the events. -/
structure Awaits (d : Device) (wait : List EventId) : Prop where
  sound : d.events.Sound
  known : ∀ w ∈ wait, d.events.Knows w

theorem Mirrors.epoch (mirrors : Mirrors P d d') : d.epoch = d'.epoch :=
  (congrArg Device.epoch mirrors.same :)

private theorem Mirrors.kernels (mirrors : Mirrors P d d') : d.kernels = d'.kernels :=
  (congrArg Device.kernels mirrors.same :)

/-- Work of others on the first device, which leaves the buffers of pairs alone. -/
theorem Mirrors.others (mirrors : Mirrors P d d') (keeps : Keeps d after)
    (same : ∀ id id', P id id' → after.memory.buffers.get? id = d.memory.buffers.get? id) : Mirrors P after d' :=
  ⟨(settings_of_keeps keeps).trans mirrors.same, fun id id' pair =>
    (same id id' pair).trans (mirrors.agree id id' pair)⟩

/-- Work beside the buffers on both sides. -/
theorem Mirrors.still (mirrors : Mirrors P d d') (still : Still d after) (still' : Still d' after') :
    Mirrors P after after' := by
  have settings {before after : Device} (still : Still before after) : after.settings = before.settings :=
    view_of_data settings (fun _ => rfl) still
  have memory {before after : Device} (still : Still before after) : after.memory = before.memory :=
    view_of_data Device.memory (fun _ => rfl) still
  refine ⟨((settings still).trans mirrors.same).trans (settings still').symm, ?_⟩
  rw [memory still, memory still']
  exact mirrors.agree

private theorem Awaits.events {w : List EventId} (awaits : d.Awaits w) (same : after.events = d.events) :
    after.Awaits w :=
  ⟨same ▸ awaits.sound, same ▸ awaits.known⟩

/-! ### Commands -/

/-- Both sides can wait for the events that they give. -/
abbrev Awaited (events events' : List EventId) (d d' : Device) : Prop :=
  d.Awaits events ∧ d'.Awaits events'

/-- A command that waits for good events is recorded, counted and logged. -/
theorem recorded_yields {kind : EventKind} {change : DeviceCounters → DeviceCounters} {log : LogEvent}
    {make : EventId → α} (awaits : d.Awaits wait) :
    ∃ event after, Op.Yields (do
        let event ← recordEvent kind wait
        count change
        Op.emit log
        pure (make event) : DeviceOp α) d (make event) after ∧ Still d after ∧ after.Awaits [event] := by
  obtain ⟨event, t, recorded, later, fresh⟩ := awaits.sound.record_ok awaits.known kind
  have ran : Op.Yields (recordEvent kind wait) d event { d with events := t } := by
    rw [recordEvent, onEvents, Op.yields_step, recorded]
    rfl
  refine ⟨event, { d with events := t, counters := change d.counters }, ?_, rfl, later.sound,
    List.forall_mem_singleton.2 fresh⟩
  refine Op.yields_bind.2 ⟨event, _, ran, Op.yields_bind.2 ⟨(), _, Op.yields_modify.2 rfl, ?_⟩⟩
  exact Op.yields_bind.2 ⟨(), _, Op.yields_emit.2 rfl, Op.yields_pure.2 ⟨rfl, rfl⟩⟩

private theorem mirrors_recorded {kind : EventKind} {change change' : DeviceCounters → DeviceCounters}
    {log log' : LogEvent} {make : EventId → α} {V : α → α → Device → Device → Prop}
    (mirrors : Mirrors P d d') (awaits : d.Awaits wait) (awaits' : d'.Awaits wait')
    (values : ∀ event event' d d', Awaited [event] [event'] d d' → V (make event) (make event') d d') :
    Op.Mirrors (do
        let event ← recordEvent kind wait
        count change
        Op.emit log
        pure (make event) : DeviceOp α)
      (do
        let event ← recordEvent kind wait'
        count change'
        Op.emit log'
        pure (make event) : DeviceOp α) (Mirrors P) V d d' := by
  obtain ⟨event, after, ran, still, fresh⟩ := recorded_yields awaits
  obtain ⟨event', after', ran', still', fresh'⟩ := recorded_yields awaits'
  exact Op.mirrors_of_yields ran ran' (mirrors.still still still') (values _ _ _ _ ⟨fresh, fresh'⟩)

/-- The events are those from before. -/
abbrev EventsKept (d d' after after' : Device) : Prop :=
  after.events = d.events ∧ after'.events = d'.events

private theorem mirrors_onMemory {β : Type} {R : Device → Device → Prop} {V : α → β → Device → Device → Prop}
    {change : Memory → Except DeviceError (α × Memory)} {change' : Memory → Except DeviceError (β × Memory)}
    (related : R d d') (results : Op.Paired (fun x y =>
      R { d with memory := x.2 } { d' with memory := y.2 } ∧
        V x.1 y.1 { d with memory := x.2 } { d' with memory := y.2 }) (change d.memory) (change' d'.memory)) :
    Op.Mirrors (onMemory change) (onMemory change') R V d d' :=
  Op.mirrors_step related (Op.paired_map results fun _ _ holds => holds)

private theorem mirrors_writeBuffer {id id' : BufferId} (mirrors : Mirrors P d d') (pairing : Pairing P)
    (pair : P id id') (data : Bytes) :
    Op.Mirrors (writeBuffer id data) (writeBuffer id' data) (Mirrors P) (fun _ _ => EventsKept d d') d d' := by
  refine mirrors_onMemory mirrors (Op.paired_map (mirrors.agree.write pairing pair data) ?_)
  exact fun _ _ agree => ⟨⟨mirrors.same, agree⟩, rfl, rfl⟩

/-- A copy to buffers that are a pair. -/
theorem mirrors_streamIn {object : HostObject} {b b' : DeviceBuffer} {range : HostRange}
    (mirrors : Mirrors P d d') (pairing : Pairing P) (pair : P b.id b'.id) (awaits : d.Awaits wait)
    (awaits' : d'.Awaits wait') :
    Op.Mirrors (streamIn object b range wait) (streamIn object b' range wait') (Mirrors P) Awaited d d' := by
  refine Op.mirrors_same_bind mirrors fun data _ => ?_
  refine Op.mirrors_bind (mirrors_writeBuffer mirrors pairing pair data) ?_
  rintro _ _ _ _ _ _ mirrors ⟨same, same'⟩
  exact mirrors_recorded mirrors (awaits.events same) (awaits'.events same') fun _ _ _ _ awaited => awaited

private theorem mirrors_waitEvents {events events' : List EventId} (mirrors : Mirrors P d d')
    (awaits : d.Awaits events) (awaits' : d'.Awaits events') :
    Op.Mirrors (waitEvents events) (waitEvents events') (Mirrors P) (fun _ _ => Awaited events events') d
      d' := by
  obtain ⟨after, ran, later⟩ := waitEvents_yields awaits.sound awaits.known
  obtain ⟨after', ran', later'⟩ := waitEvents_yields awaits'.sound awaits'.known
  refine Op.mirrors_of_yields ran ran'
    (mirrors.still ((still_waitEvents _).yields ran) ((still_waitEvents _).yields ran')) ⟨?_, ?_⟩
  · exact ⟨later.sound, fun w member => later.knows w (awaits.known w member)⟩
  · exact ⟨later'.sound, fun w member => later'.knows w (awaits'.known w member)⟩

/-- The same host object, beside devices that stand in for one another. -/
def CopyMirrors (P : BufferId → BufferId → Prop) (x y : HostObject × Device) : Prop :=
  x.1 = y.1 ∧ Mirrors P x.2 y.2

/-- Both sides can wait for their copy. -/
abbrev CopyAwaited (event event' : EventId) (x y : HostObject × Device) : Prop :=
  Awaited [event] [event'] x.2 y.2

private theorem mirrors_copyDevice {op op' : DeviceOp α} {V : α → α → Device → Device → Prop}
    {x y : HostObject × Device} (same : x.1 = y.1) (head : Op.Mirrors op op' (Mirrors P) V x.2 y.2) :
    Op.Mirrors (onDevice op) (onDevice op') (CopyMirrors P) (fun a b x y => V a b x.2 y.2) x y :=
  Op.mirrors_onPart head (fun _ _ starved => ⟨starved, starved⟩) (fun _ _ mirrors => ⟨same, mirrors⟩)
    fun _ _ _ _ holds => holds

/-- A copy from buffers that are a pair. -/
theorem mirrors_streamOut {b b' : DeviceBuffer} {range : HostRange} {x y : HostObject × Device}
    (copies : CopyMirrors P x y) (pair : P b.id b'.id) (awaits : x.2.Awaits wait) (awaits' : y.2.Awaits wait') :
    Op.Mirrors (streamOut b range wait) (streamOut b' range wait') (CopyMirrors P) CopyAwaited x y := by
  obtain ⟨object, d⟩ := x
  obtain ⟨_, d'⟩ := y
  obtain ⟨rfl, mirrors⟩ := copies
  refine Op.mirrors_get ?_
  dsimp only
  refine Op.mirrors_ofExcept_bind (P := Eq) ⟨rfl, mirrors⟩ (mirrors.agree.read pair _) fun data _ _ _ same => ?_
  subst same
  refine Op.mirrors_bind (V := fun _ _ x y => EventsKept d d' x.2 y.2)
    (Op.mirrors_step ⟨rfl, mirrors⟩ ?_) fun _ _ x y _ _ copies ⟨same, same'⟩ => ?_
  · dsimp only
    rcases object.writeRange range.offset data with e | written
    · exact .error (.same e)
    · exact .ok ⟨⟨rfl, mirrors⟩, rfl, rfl⟩
  · exact mirrors_copyDevice copies.1 (mirrors_recorded copies.2 (awaits.events same) (awaits'.events same')
      fun _ _ _ _ awaited => awaited)

theorem mirrors_streamOutBlocking {b b' : DeviceBuffer} {range : HostRange} {x y : HostObject × Device}
    (copies : CopyMirrors P x y) (pair : P b.id b'.id) (awaits : x.2.Awaits wait) (awaits' : y.2.Awaits wait') :
    Op.Mirrors (streamOutBlocking b range wait) (streamOutBlocking b' range wait') (CopyMirrors P) CopyAwaited
      x y := by
  refine Op.mirrors_bind (mirrors_streamOut copies pair awaits awaits') ?_
  intro event event' _ _ _ _ copies awaited
  refine Op.mirrors_bind (mirrors_copyDevice copies.1 (mirrors_waitEvents copies.2 awaited.1 awaited.2)) ?_
  exact fun _ _ _ _ _ _ copies awaited => Op.mirrors_pure copies awaited

/-! ### Binaries and launches -/

theorem mirrors_installCode (mirrors : Mirrors P d d') (request : CompileRequest) :
    Op.Mirrors (installCode request) (installCode request) (Mirrors P)
      (fun code code' _ _ => code.anonymous = code'.anonymous) d d' := by
  have check : d.checkTask request.task = d'.checkTask request.task := by
    have blind (d : Device) : d.checkTask request.task = d.settings.checkTask request.task := rfl
    rw [blind d, blind d', mirrors.same]
  refine Op.mirrors_get ?_
  rw [check]
  refine Op.mirrors_same_bind mirrors fun _ _ => ?_
  refine Op.mirrors_modify_bind (Op.mirrors_modify_bind (Op.mirrors_emit_bind (Op.mirrors_pure ?_ ?_)))
  · exact ⟨mirrors.same, mirrors.agree⟩
  · unfold Binary.anonymous
    rw [mirrors.epoch]

/-- A kernel that does not look at the numbers of its handles, run on live buffers. -/
theorem mirrors_runKernel {kernel : Kernel} {v v' : Invocation} (mirrors : Mirrors P d d')
    (alive : ∀ id id', P id id' → ∃ held, d.memory.buffers.get? id = some held) (pairing : Pairing P)
    (blind : kernel.Blind) (paired : v.Paired P v') :
    Op.Mirrors (runKernel kernel v) (runKernel kernel v') (Mirrors P) (fun _ _ => EventsKept d d') d d' := by
  obtain ⟨results, matched⟩ := (blind v v' paired.same).run pairing paired ⟨mirrors.agree, alive⟩
  exact .inr ⟨⟨mirrors.same, matched.agree⟩, results.weaken fun _ _ _ => ⟨rfl, rfl⟩⟩

/-- The kernels of the device do not look at the numbers of their handles. -/
def Blind (d : Device) : Prop :=
  ∀ name kernel, d.kernels.get? name = some kernel → kernel.Blind

private theorem Mirrors.kernelOf {code code' : Binary} (mirrors : Mirrors P d d') (blind : d.Blind)
    (binaries : code.anonymous = code'.anonymous) :
    Op.Paired (fun kernel kernel' => kernel = kernel' ∧ kernel.Blind) (d.kernelOf code) (d'.kernelOf code') := by
  have kernel : code.kernel = code'.kernel := (congrArg Binary.kernel binaries :)
  have valid : code.valid = code'.valid := (congrArg Binary.valid binaries :)
  have epoch : code.epoch = code'.epoch := (congrArg Binary.epoch binaries :)
  unfold Device.kernelOf
  rw [← mirrors.kernels, ← mirrors.epoch, ← valid, ← epoch, ← kernel]
  split
  · exact .error (.code code.id code'.id code.kernel)
  · rcases found : d.kernels.get? code.kernel with _ | k
    · exact .error (.same _)
    · exact .ok ⟨rfl, blind _ k found⟩

private theorem anonymous_frame {frame frame' : List KernelArg}
    (frames : List.Forall₂ (KernelArg.Paired P) frame frame') :
    frame.map KernelArg.anonymous = frame'.map KernelArg.anonymous := by
  induction frames with
  | nil => rfl
  | cons arg _ ih =>
    rw [List.map_cons, List.map_cons, ih]
    cases arg with
    | constant value => rfl
    | kernelContext => rfl
    | buffer paired size =>
      simp only [KernelArg.anonymous, DeviceBuffer.anonymous, size]

/-- A launch without atomics, with the same arguments up to buffers that are a pair. -/
theorem mirrors_launch {code code' : Binary} {frame frame' : List KernelArg} {grid : Grid} {offset : Nat}
    (mirrors : Mirrors P d d') (alive : ∀ id id', P id id' → ∃ held, d.memory.buffers.get? id = some held)
    (pairing : Pairing P) (blind : d.Blind) (binaries : code.anonymous = code'.anonymous)
    (frames : List.Forall₂ (KernelArg.Paired P) frame frame') (awaits : d.Awaits wait)
    (awaits' : d'.Awaits wait') :
    Op.Mirrors (launch code frame none grid offset wait) (launch code' frame' none grid offset wait')
      (Mirrors P) (fun event event' => Awaited [event] [event']) d d' := by
  have batch : code.batchThreads = code'.batchThreads ∧ code.batchSize = code'.batchSize ∧
      code.batchNumber = code'.batchNumber :=
    ⟨(congrArg Binary.batchThreads binaries :), (congrArg Binary.batchSize binaries :),
      (congrArg Binary.batchNumber binaries :)⟩
  have paired : (Invocation.ofLaunch code frame none grid offset).Paired P
      (.ofLaunch code' frame' none grid offset) := by
    refine ⟨frames, rfl, ?_⟩
    simp only [Invocation.anonymous, Invocation.ofLaunch, anonymous_frame frames, batch]
  refine Op.mirrors_get (Op.mirrors_ofExcept_bind mirrors (mirrors.kernelOf blind binaries) ?_)
  rintro kernel _ _ _ ⟨rfl, blind⟩
  have counts : (Invocation.ofLaunch code frame none grid offset).threads =
      (Invocation.ofLaunch code' frame' none grid offset).threads := (congrArg Invocation.threads paired.same :)
  dsimp only
  rw [counts]
  refine Op.mirrors_same_bind mirrors fun threads _ => ?_
  refine Op.mirrors_bind (mirrors_runKernel mirrors alive pairing blind paired) ?_
  rintro _ _ _ _ _ _ mirrors ⟨same, same'⟩
  exact mirrors_recorded mirrors (awaits.events same) (awaits'.events same') fun _ _ _ _ awaited => awaited

/-! ### Markers -/

theorem mirrors_enqueueMarker (mirrors : Mirrors P d d') (awaits : d.Awaits wait) (awaits' : d'.Awaits wait') :
    Op.Mirrors (enqueueMarker wait) (enqueueMarker wait') (Mirrors P) (fun _ _ _ _ => True) d d' := by
  obtain ⟨marker, after, ran, _⟩ := enqueueMarker_yields awaits.sound awaits.known
  obtain ⟨marker', after', ran', _⟩ := enqueueMarker_yields awaits'.sound awaits'.known
  exact Op.mirrors_of_yields ran ran'
    (mirrors.still ((still_enqueueMarker _).yields ran) ((still_enqueueMarker _).yields ran')) trivial

/-! ### Buffers -/

/-- The buffers have the same sizes and hold zeros. -/
structure Zeroed (buffers buffers' : List DeviceBuffer) (d d' : Device) : Prop where
  sizes : buffers.map DeviceBuffer.size = buffers'.map DeviceBuffer.size
  left : ∀ b ∈ buffers, d.memory.buffers.get? b.id = some (.zeroed b.size)
  right : ∀ b ∈ buffers', d'.memory.buffers.get? b.id = some (.zeroed b.size)

/-- New buffers are the same on both sides, and old ones stay what they are. -/
theorem mirrors_allocate {sizes : List Nat} (mirrors : Mirrors P d d')
    (old : ∀ id id', P id id' → id < d.memory.nextId ∧ id' < d'.memory.nextId) :
    Op.Mirrors (allocate sizes) (allocate sizes) (Mirrors P) Zeroed d d' := by
  have starves {d : Device} (short : d.memory.available < sizes.sum) : Op.Starves (allocate sizes) d := by
    refine Op.Starves.bind ⟨.outOfMemory sizes.sum d.memory.available, ?_⟩
    rw [onMemory_run, Memory.allocate, Memory.reserve, if_pos short]
    exact ⟨rfl, _, rfl, short⟩
  by_cases short : d.memory.available < sizes.sum
  · exact .inl (.inl (starves short))
  by_cases short' : d'.memory.available < sizes.sum
  · exact .inl (.inr (starves short'))
  refine Op.mirrors_bind (R := Mirrors P) (V := Zeroed) (mirrors_onMemory mirrors ?_)
    fun buffers buffers' _ _ _ _ mirrors zeroed => Op.mirrors_modify_bind (Op.mirrors_emit_bind ?_)
  · rw [Memory.allocate_ok_iff.2 ⟨Nat.not_lt.1 short, rfl⟩, Memory.allocate_ok_iff.2 ⟨Nat.not_lt.1 short', rfl⟩]
    refine .ok ⟨⟨mirrors.same, fun id id' pair => ?_⟩, ?_, ?_, ?_⟩
    · rw [Memory.addBuffers_get? _ _ (old id id' pair).1, Memory.addBuffers_get? _ _ (old id id' pair).2]
      exact mirrors.agree id id' pair
    · rw [Memory.addBuffers_sizes, Memory.addBuffers_sizes]
    · exact fun b member => (Memory.addBuffers_zeroed _ _ b member).2
    · exact fun b member => (Memory.addBuffers_zeroed _ _ b member).2
  · exact Op.mirrors_pure ⟨mirrors.same, mirrors.agree⟩ ⟨zeroed.sizes, zeroed.left, zeroed.right⟩

/-- A buffer that both sides give back. Pairs of other buffers are still the same. -/
theorem mirrors_deallocate {b b' : DeviceBuffer} (mirrors : Mirrors P d d') (pair : P b.id b'.id) :
    Op.Mirrors (deallocate b) (deallocate b') (fun _ _ => True) (fun freed freed' d d' => freed = freed' ∧
      Mirrors (fun id id' => P id id' ∧ b.id ≠ id ∧ b'.id ≠ id') d d') d d' := by
  refine Op.mirrors_bind (R := fun _ _ => True) (V := fun freed freed' d d' => freed = freed' ∧
    Mirrors (fun id id' => P id id' ∧ b.id ≠ id ∧ b'.id ≠ id') d d') (mirrors_onMemory trivial ?_)
    fun freed freed' _ _ _ _ _ ⟨same, mirrors⟩ => Op.mirrors_modify_bind ?_
  · unfold Memory.free
    rw [mirrors.agree b.id b'.id pair]
    rcases d'.memory.buffers.get? b'.id with _ | held
    · exact .error (.buffer b.id b'.id)
    · refine .ok ⟨trivial, rfl, mirrors.same, fun id id' ⟨others, left, right⟩ => ?_⟩
      rw [Table.get?_erase, Table.get?_erase, if_neg left, if_neg right]
      exact mirrors.agree id id' others
  · exact Op.mirrors_pure trivial ⟨same, mirrors.same, mirrors.agree⟩

end Offload.Device
