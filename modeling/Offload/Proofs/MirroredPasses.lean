import Offload.Proofs.MirroredSessions

/-! Passes of sessions that stand in for one another: each instruction does the same to both, and so
does a pass as a whole, a warmup and a release of everything. -/
namespace Offload.Machine
open Session (Mirrors Safe Excused mirrors_command mirrors_onDevice mirrors_measured)

variable {s t : Session} {last last' : Option EventId} {α β : Type}

/-! ### Allocation -/

private theorem bufferRequests_congr (c : Context) {bs bs' : Bindings} (same : bs.anonymous = bs'.anonymous)
    (batchSize : Nat) (objects : List UInt32) (requests : List BufferRequest) :
    Op.Paired Eq (bufferRequests c bs batchSize objects requests)
      (bufferRequests c bs' batchSize objects requests) := by
  induction objects generalizing requests with
  | nil => exact .ok rfl
  | cons index rest ih =>
    refine Op.paired_bind (Op.paired_same fun _ _ => rfl) fun entry _ equal => ?_
    subst equal
    refine Op.paired_bind (Bindings.get_congr same _) fun b b' alike => ?_
    rw [Bindings.isBound_congr alike]
    split
    · exact ih _
    · exact ih _

private theorem mirrors_bindAll {requests : List BufferRequest} {buffers buffers' : List DeviceBuffer}
    (mirrors : Mirrors s t) (zeroed : Device.Zeroed buffers buffers' s.device t.device) :
    Op.Mirrors (bindAll (requests.zip buffers)) (bindAll (requests.zip buffers')) Mirrors Anything s t := by
  induction requests generalizing buffers buffers' s t with
  | nil => exact Op.mirrors_pure mirrors trivial
  | cons request rest ih =>
    obtain ⟨sizes, left, right⟩ := zeroed
    rcases buffers with _ | ⟨b, others⟩ <;> rcases buffers' with _ | ⟨b', others'⟩
    · exact Op.mirrors_pure mirrors trivial
    · cases sizes
    · cases sizes
    obtain ⟨size, sizes⟩ := List.cons.inj sizes
    have same : s.device.memory.buffers.get? b.id = t.device.memory.buffers.get? b'.id := by
      rw [left b (List.mem_cons_self ..), right b' (List.mem_cons_self ..), size]
    refine Op.mirrors_modify_bind (Op.mirrors_modify_bind ?_)
    refine ih ?_ ⟨sizes, fun x member => left x (List.mem_cons_of_mem _ member),
      fun x member => right x (List.mem_cons_of_mem _ member)⟩
    refine (mirrors.bind request.object size same).setMachine ?_ fun _ _ pair => pair
    refine (mirrors.bind request.object size same).machine.setProfiler ?_
    rw [Profiler.isEnabled_addMetric, Profiler.isEnabled_addMetric]
    exact mirrors.machine.isEnabled

private theorem old_of_tidy {d d' : Device} (tidy : s.machine.Tidy d) (tidy' : t.machine.Tidy d') {id id' : BufferId}
    (pair : s.machine.bindings.Pairs t.machine.bindings id id') :
    id < d.memory.nextId ∧ id' < d'.memory.nextId := by
  obtain ⟨object, b, b', bound, bound', rfl, rfl⟩ := pair
  exact ⟨tidy.old ⟨object, b, bound, rfl⟩, tidy'.old ⟨object, b', bound', rfl⟩⟩

private theorem mirrors_alloc (abreast : Abreast s t last last') (batchSize : Nat) (objects : List UInt32) :
    Op.Mirrors (alloc batchSize objects) (alloc batchSize objects) Mirrors Anything s t := by
  have mirrors := abreast.mirrors
  refine Op.mirrors_get ?_
  dsimp only
  rw [mirrors.context]
  refine Op.mirrors_ofExcept_bind mirrors
    (bufferRequests_congr t.context mirrors.machine.bindings batchSize objects []) ?_
  rintro requests _ _ _ rfl
  refine Op.mirrors_ite Iff.rfl (fun _ => Op.mirrors_pure mirrors trivial) fun _ => ?_
  refine Op.mirrors_same_bind mirrors fun _ _ => ?_
  refine Op.mirrors_bind (mirrors_command mirrors (Device.mirrors_allocate mirrors.device
    fun id id' => old_of_tidy abreast.left.tidy abreast.right.tidy)) ?_
  intro buffers buffers' u v _ _ mirrors zeroed
  rw [zeroed.sizes]
  refine Op.mirrors_modify_bind ?_
  refine Op.mirrors_bind (mirrors_bindAll (mirrors.setContext ?_) zeroed) fun _ _ _ _ _ _ mirrors _ =>
    Op.mirrors_emit mirrors trivial
  rw [mirrors.context]

/-! ### Release -/

private theorem pairs_unbind {d d' : Device} (tidy : s.machine.Tidy d) (tidy' : t.machine.Tidy d') {object : Nat}
    {b b' : DeviceBuffer} (bound : s.machine.bindings.buffer? object = some b)
    (bound' : t.machine.bindings.buffer? object = some b') {id id' : BufferId}
    (pair : (s.machine.bindings.modify object Binding.unbind).Pairs
      (t.machine.bindings.modify object Binding.unbind) id id') :
    s.machine.bindings.Pairs t.machine.bindings id id' ∧ b.id ≠ id ∧ b'.id ≠ id' := by
  obtain ⟨other, c, c', found, found', rfl, rfl⟩ := pair
  rw [bufferOf_unbind] at found found'
  split at found
  · cases found
  · next differ =>
    rw [if_neg differ] at found'
    exact ⟨⟨other, c, c', found, found', rfl, rfl⟩, fun same => differ (tidy.distinct _ _ _ _ bound found same),
      fun same => differ (tidy'.distinct _ _ _ _ bound' found' same)⟩

private theorem mirrors_dealloc (mirrors : Mirrors s t) (tidy : s.machine.Tidy s.device)
    (tidy' : t.machine.Tidy t.device)
    (object : Nat) :
    Op.Mirrors (dealloc object) (dealloc object) Mirrors (fun freed freed' _ _ => freed = freed') s t := by
  refine Op.mirrors_of_refuses (refuses_dealloc _) (refuses_dealloc _) mirrors (Op.mirrors_get ?_)
  dsimp only
  rw [mirrors.context]
  refine Op.mirrors_same_bind trivial fun entry _ => ?_
  refine Op.mirrors_ofExcept_bind trivial (Bindings.get_congr mirrors.machine.bindings object) ?_
  intro c c' found found' alike
  have bound := Bindings.buffer?_of_get found
  have bound' := Bindings.buffer?_of_get found'
  have buffers : c.buffer.map DeviceBuffer.anonymous = c'.buffer.map DeviceBuffer.anonymous :=
    (congrArg Binding.buffer alike :)
  rcases map_eq_map_cases buffers with ⟨none, none'⟩ | ⟨b, b', some, some', _⟩
  · rw [none, none']
    exact Op.mirrors_ite Iff.rfl (fun _ => Op.mirrors_pure trivial ⟨mirrors, rfl⟩) fun _ =>
      Op.mirrors_emit_bind (Op.mirrors_pure trivial ⟨mirrors, rfl⟩)
  rw [some] at bound ⊢
  rw [some'] at bound' ⊢
  have pair := Session.Mirrors.bound bound bound'
  refine Op.mirrors_bind (mirrors_onDevice (Q := fun _ _ => True)
    (Device.mirrors_deallocate mirrors.device pair) fun _ _ _ => trivial) ?_
  rintro freed _ u v ran ran' _ ⟨rfl, device⟩
  obtain ⟨d, _, rfl⟩ := yields_onDevice.1 ran
  obtain ⟨d', _, rfl⟩ := yields_onDevice.1 ran'
  refine Op.mirrors_modify_bind (Op.mirrors_modify_bind (Op.mirrors_emit_bind (Op.mirrors_pure trivial ⟨?_, rfl⟩)))
  refine ⟨?_, mirrors.machine.setBindings ?_, device.same, fun id id' pair => device.agree id id' ?_⟩
  · show ({ s.context with memory := s.context.memory.sub freed } : Context) =
      { t.context with memory := t.context.memory.sub freed }
    rw [mirrors.context]
  · refine Bindings.modify_congr mirrors.machine.bindings fun c c' alike => ?_
    have atomic : c.atomic = c'.atomic := (congrArg Binding.atomic alike :)
    simp only [Binding.anonymous, Binding.unbind, Option.map_none, atomic]
  · exact pairs_unbind tidy tidy' bound bound' pair

private theorem mirrors_deallocAll (mirrors : Mirrors s t) (tidy : s.machine.Tidy s.device)
    (tidy' : t.machine.Tidy t.device) (objects : List Nat) :
    Op.Mirrors (deallocAll objects) (deallocAll objects) Mirrors (fun freed freed' _ _ => freed = freed') s t := by
  induction objects generalizing s t with
  | nil => exact Op.mirrors_pure mirrors rfl
  | cons object rest ih =>
    refine Op.mirrors_bind (mirrors_dealloc mirrors tidy tidy' object) fun freed _ u v ran ran' mirrors same => ?_
    subst same
    have tidy := ((safe_dealloc object).yields ran).tidy tidy
    have tidy' := ((safe_dealloc object).yields ran').tidy tidy'
    refine Op.mirrors_bind (ih mirrors tidy tidy') fun others _ _ _ _ _ mirrors same => ?_
    exact Op.mirrors_pure mirrors (congrArg (freed + ·) same)

/-- Every bound buffer is given back on both sides. -/
theorem mirrors_freeDeviceMemory (mirrors : Mirrors s t) (tidy : s.machine.Tidy s.device)
    (tidy' : t.machine.Tidy t.device) :
    Op.Mirrors freeDeviceMemory freeDeviceMemory Mirrors (fun freed freed' _ _ => freed = freed') s t := by
  refine Op.mirrors_get ?_
  rw [Bindings.bound_congr mirrors.machine.bindings]
  exact mirrors_deallocAll mirrors tidy tidy' _

/-! ### Copies -/

private theorem boundBuffer_congr {m m' : Machine} (same : m.bindings.anonymous = m'.bindings.anonymous)
    (use : BufferUse) (object : Nat) :
    Op.Paired (fun b b' => b.size = b'.size ∧ m.bindings.buffer? object = some b ∧
      m'.bindings.buffer? object = some b') (m.boundBuffer use object) (m'.boundBuffer use object) := by
  have results : Op.Paired (fun b b' : DeviceBuffer => b.anonymous = b'.anonymous)
      (m.boundBuffer use object) (m'.boundBuffer use object) := by
    refine Op.paired_bind (Bindings.get_congr same object) fun c c' alike => ?_
    have buffers : c.buffer.map DeviceBuffer.anonymous = c'.buffer.map DeviceBuffer.anonymous :=
      (congrArg Binding.buffer alike :)
    rcases map_eq_map_cases buffers with ⟨none, none'⟩ | ⟨b, b', some, some', same⟩
    · rw [none, none']
      exact .error (.same _)
    · rw [some, some']
      exact .ok same
  exact results.attach.weaken fun b b' ⟨found, found', alike⟩ =>
    ⟨(congrArg DeviceBuffer.size alike :), boundBuffer_ok_iff.1 found, boundBuffer_ok_iff.1 found'⟩

private theorem mirrors_setContent (mirrors : Mirrors s t) (object : Nat) (present : Bool) :
    Mirrors { s with machine.bindings := s.machine.bindings.modify object (·.setContent present) }
      { t with machine.bindings := t.machine.bindings.modify object (·.setContent present) } := by
  refine mirrors.setMachine (mirrors.machine.setBindings ?_) fun _ _ => Bindings.pairs_modify_same fun _ => rfl
  refine Bindings.modify_congr mirrors.machine.bindings fun c c' alike => ?_
  exact congrArg (·.setContent present) alike

/-- Events that are not awaited through the list stay good when it is reset. -/
theorem mirrors_resetList_bind {events events' : List EventId} {next next' : MachineOp α}
    {W : α → α → Session → Session → Prop} (mirrors : Mirrors s t) (list : Option UInt32)
    (awaited : Device.Awaited events events' s.device t.device)
    (tail : ∀ u v, Mirrors u v → Device.Awaited events events' u.device v.device →
      Op.Mirrors next next' Mirrors W u v) :
    Op.Mirrors (resetList list >>= fun _ => next) (resetList list >>= fun _ => next') Mirrors W s t := by
  refine Op.mirrors_bind (mirrors_resetList mirrors list) ?_
  rintro _ _ u v _ _ mirrors ⟨device, device'⟩
  rw [← device, ← device'] at awaited
  exact tail u v mirrors awaited

private theorem mirrors_transferIn (abreast : Abreast s t last last') (transfer : Transfer) (once : Bool) :
    Op.Mirrors (transferIn transfer once) (transferIn transfer once) Mirrors Anything s t := by
  have mirrors := abreast.mirrors
  have pairing := Session.pairing_of_tidy abreast.left.tidy abreast.right.tidy
  refine Op.mirrors_get ?_
  dsimp only
  rw [mirrors.context]
  refine Op.mirrors_same_bind mirrors fun entry _ => ?_
  refine Op.mirrors_ite Iff.rfl (fun _ => Op.mirrors_pure mirrors trivial) fun _ => ?_
  refine Op.mirrors_ofExcept_bind mirrors (boundBuffer_congr mirrors.machine.bindings _ _) ?_
  rintro b b' _ _ ⟨_, bound, bound'⟩
  refine Op.mirrors_ofExcept_bind mirrors (Bindings.get_congr mirrors.machine.bindings _) ?_
  intro c c' _ _ alike
  have content : c.hasContent = c'.hasContent := (congrArg Binding.hasContent alike :)
  rw [content]
  refine Op.mirrors_ite Iff.rfl (fun _ => (mirrors_resetList mirrors _).weaken (fun _ _ mirrors => mirrors)
    fun _ _ _ _ _ => trivial) fun _ => ?_
  refine Op.mirrors_same_bind mirrors fun range _ => ?_
  refine Op.mirrors_bind (abreast.waits _) ?_
  rintro wait wait' _ _ _ _ mirrors ⟨⟨rfl, rfl⟩, awaits, awaits'⟩
  refine Op.mirrors_bind (mirrors_command mirrors (Device.mirrors_streamIn mirrors.device pairing
    (Session.Mirrors.bound bound bound') awaits awaits')) ?_
  intro events events' u v _ _ mirrors awaited
  -- What follows a copy, whether it leaves a mark or not.
  have rest {u v : Session} (mirrors : Mirrors u v) (awaited : Device.Awaited events events' u.device v.device) :
      Op.Mirrors
        (do
          resetList transfer.list
          profileTransfer events .copyIn .copyInBytes transfer.object.toNat range.size)
        (do
          resetList transfer.list
          profileTransfer events' .copyIn .copyInBytes transfer.object.toNat range.size) Mirrors Anything u v :=
    mirrors_resetList_bind mirrors _ awaited fun _ _ mirrors awaited => mirrors_profileTransfer mirrors awaited
  refine Op.mirrors_ite Iff.rfl (fun _ => ?_) fun _ => rest mirrors awaited
  exact Op.mirrors_modify_bind (rest (mirrors_setContent mirrors _ _) awaited)

/-- A copy to the same host object on either side. -/
theorem mirrors_onObject {op op' : Device.CopyOut α} {V : α → α → HostObject × Device → HostObject × Device → Prop}
    (mirrors : Mirrors s t) (index : Nat) (object : HostObject)
    (head : Op.Mirrors op op' (Device.CopyMirrors (s.machine.bindings.Pairs t.machine.bindings)) V
      (object, s.device) (object, t.device)) :
    Op.Mirrors (onObject index object op) (onObject index object op') Mirrors
      (fun a b s t => ∃ x y, V a b x y ∧ x.2 = s.device ∧ y.2 = t.device) s t := by
  refine Op.mirrors_onPart (Op.mirrors_mapError head (fun _ x starved => MachineError.starved_ofDevice (d := x.2) starved)
    fun _ _ => MachineError.alike_ofDevice) (fun _ _ starved => ⟨starved, starved⟩) ?_ ?_
  · rintro ⟨x, d⟩ ⟨_, d'⟩ ⟨rfl, device⟩
    exact (mirrors.setDevice device).setContext (congrArg (·.setObject index x) mirrors.context)
  · exact fun a b x y holds => ⟨x, y, holds, rfl, rfl⟩

private theorem mirrors_transferOut (abreast : Abreast s t last last') (transfer : Transfer) (blocking : Bool) :
    Op.Mirrors (transferOut transfer blocking) (transferOut transfer blocking) Mirrors
      (fun event event' _ _ => event.isSome = event'.isSome) s t := by
  have mirrors := abreast.mirrors
  refine Op.mirrors_get ?_
  dsimp only
  rw [mirrors.context]
  refine Op.mirrors_same_bind mirrors fun entry _ => ?_
  refine Op.mirrors_ite Iff.rfl (fun _ => Op.mirrors_pure mirrors rfl) fun _ => ?_
  refine Op.mirrors_ofExcept_bind mirrors (boundBuffer_congr mirrors.machine.bindings _ _) ?_
  rintro b b' _ _ ⟨_, bound, bound'⟩
  refine Op.mirrors_same_bind mirrors fun range _ => ?_
  refine Op.mirrors_bind (abreast.waits _) ?_
  rintro wait wait' _ _ _ _ mirrors ⟨⟨rfl, rfl⟩, awaits, awaits'⟩
  have pair := Session.Mirrors.bound bound bound'
  have copies : Device.CopyMirrors (s.machine.bindings.Pairs t.machine.bindings) (entry.object, s.device)
      (entry.object, t.device) := ⟨rfl, mirrors.device⟩
  refine Op.mirrors_bind (mirrors_onObject (V := Device.CopyAwaited) mirrors _ _ ?_) ?_
  · rcases blocking with _ | _
    · exact Device.mirrors_streamOut copies pair awaits awaits'
    · exact Device.mirrors_streamOutBlocking copies pair awaits awaits'
  rintro event event' u v _ _ mirrors ⟨x, y, awaited, device, device'⟩
  rw [Device.CopyAwaited, device, device'] at awaited
  refine mirrors_resetList_bind mirrors _ awaited fun _ _ mirrors awaited => ?_
  exact Op.mirrors_bind (mirrors_profileTransfer mirrors awaited) fun _ _ _ _ _ _ mirrors _ =>
    Op.mirrors_pure mirrors rfl

/-! ### Binaries -/

/-- A failure that is named after its task and ends the run. -/
theorem starves_failed (task : String) {e : MachineError} {u : Session} (starved : Op.Scarce.starved e u) :
    Op.Starves (Op.fail (e.forTask task) : MachineOp α) u :=
  ⟨_, rfl, MachineError.starved_forTask task starved⟩

private theorem mirrors_buildCode (mirrors : Mirrors s t) (index : Nat) (task : Task) :
    Op.Mirrors (buildCode index task) (buildCode index task) Mirrors Anything s t := by
  refine Op.mirrors_get ?_
  dsimp only
  rw [CodeCache.request_congr mirrors.machine.cache, mirrors.machine.schedule]
  refine Op.mirrors_attempt_bind (mirrors_command mirrors (Device.mirrors_installCode mirrors.device _))
    (fun e u starved => Op.Starves.after (a := ()) (Op.yields_emit.2 rfl) (starves_failed task.id starved))
    (fun e u starved => Op.Starves.after (a := ()) (Op.yields_emit.2 rfl) (starves_failed task.id starved))
    fun r r' _ _ mirrors results => Op.mirrors_emit_bind ?_
  cases results with
  | error alike => exact Op.mirrors_fail mirrors (MachineError.alike_forTask task.id alike)
  | ok same =>
    have timed := mirrors.measured ⟨_, _, rfl, Profiler.isEnabled_addTimer _ .compile 0, rfl⟩
      ⟨_, _, rfl, Profiler.isEnabled_addTimer _ .compile 0, rfl⟩
    refine Op.mirrors_modify_bind (Op.mirrors_modify (timed.setMachine ?_ fun _ _ pair => pair) trivial)
    exact (timed.machine.setCache (CodeCache.install_congr timed.machine.cache same)).change
      (fun m => { m with stats := { m.stats with compilations := m.stats.compilations + 1 } }) fun _ => rfl

private theorem mirrors_fitCode (mirrors : Mirrors s t) (l : Launch) :
    Op.Mirrors (fitCode l) (fitCode l) Mirrors Anything s t := by
  refine Op.mirrors_get ?_
  dsimp only
  rw [mirrors.context]
  refine Op.mirrors_same_bind mirrors fun task _ => ?_
  obtain ⟨triggered, prepared⟩ := CodeCache.prepare_congr mirrors.machine.cache l.task.toNat
    l.batchThreads.toNat task.writesLoopIndex
  generalize s.machine.cache.prepare l.task.toNat l.batchThreads.toNat task.writesLoopIndex = p at *
  generalize t.machine.cache.prepare l.task.toNat l.batchThreads.toNat task.writesLoopIndex = p' at *
  obtain ⟨forced, cache⟩ := p
  obtain ⟨_, cache'⟩ := p'
  dsimp only at triggered prepared ⊢
  subst triggered
  have mirrors := mirrors.setMachine (mirrors.machine.setCache prepared) fun _ _ pair => pair
  refine Op.mirrors_modify_bind ?_
  rw [CodeCache.needsCompile_congr prepared]
  have built {due : Prop} [Decidable due] := Op.mirrors_ite (Iff.refl due)
    (fun _ => mirrors_buildCode mirrors l.task.toNat task) fun _ =>
      Op.mirrors_pure (a := ()) (b := ()) (V := Anything) mirrors trivial
  exact Op.mirrors_ite Iff.rfl (fun _ => Op.mirrors_emit_bind built) fun _ => built

private theorem mirrors_afterNotice (mirrors : Mirrors s t) : Mirrors (afterNotice s) (afterNotice t) := by
  refine ⟨?_, ?_, mirrors.device.same, ?_⟩
  · show ({ s.context with memory := s.context.memory.sub s.machine.bindings.boundBytes } : Context) =
      { t.context with memory := t.context.memory.sub t.machine.bindings.boundBytes }
    rw [mirrors.context, Bindings.boundBytes_congr_anonymous mirrors.machine.bindings]
  · have dropped := (mirrors.machine.setBindings (Bindings.unbindAll_congr mirrors.machine.bindings)).setCache
      (CodeCache.clear_congr mirrors.machine.cache)
    unfold afterNotice
    rw [mirrors.device.epoch]
    exact dropped.change (fun m => { m with epoch := t.device.epoch }) fun _ => rfl
  · rintro id id' ⟨object, b, b', bound, _⟩
    cases (Bindings.buffer?_unbindAll _ _).symm.trans bound

/-- A reset of the device is noticed on both sides or on neither. -/
theorem mirrors_syncEpoch (mirrors : Mirrors s t) : Op.Mirrors syncEpoch syncEpoch Mirrors Anything s t := by
  have epochs : s.device.epoch = s.machine.epoch ↔ t.device.epoch = t.machine.epoch := by
    rw [mirrors.device.epoch, mirrors.machine.epoch]
  by_cases current : s.device.epoch = s.machine.epoch
  · exact Op.mirrors_of_yields (syncEpoch_current current) (syncEpoch_current (epochs.1 current)) mirrors trivial
  have behind : t.device.epoch ≠ t.machine.epoch := fun same => current (epochs.2 same)
  have finished := mirrors.machine.finishedWarmup
  rcases unfinished : s.machine.finishedWarmup with _ | _ <;> rw [unfinished] at finished
  · exact Op.mirrors_of_yields (syncEpoch_notice current unfinished) (syncEpoch_notice behind finished.symm)
      (mirrors_afterNotice mirrors) trivial
  · obtain ⟨failed, same⟩ := syncEpoch_fatal current unfinished
    obtain ⟨failed', same'⟩ := syncEpoch_fatal behind finished.symm
    unfold Op.Mirrors
    rw [failed, failed', same, same', mirrors.machine.info]
    exact .inr ⟨mirrors, .error (.same _)⟩

private theorem mirrors_compile (mirrors : Mirrors s t) (l : Launch) :
    Op.Mirrors (compile l) (compile l) Mirrors Anything s t :=
  Op.mirrors_bind (mirrors_syncEpoch mirrors) fun _ _ _ _ _ _ mirrors _ => mirrors_fitCode mirrors l

/-! ### Launches -/

private theorem mirrors_installedCode (mirrors : Mirrors s t) (l : Launch) :
    Op.Mirrors (installedCode l) (installedCode l) Mirrors
      (fun code code' s' t' => (s = s' ∧ t = t') ∧ code.anonymous = code'.anonymous) s t := by
  refine Op.mirrors_get ?_
  rw [mirrors.context]
  refine Op.mirrors_same_bind mirrors fun task _ => Op.mirrors_ofExcept mirrors ?_
  have codes : (s.machine.cache.code l.task.toNat).map Binary.anonymous =
      (t.machine.cache.code l.task.toNat).map Binary.anonymous := by
    rw [← CodeCache.code_anonymous, ← CodeCache.code_anonymous, mirrors.machine.cache]
  rcases map_eq_map_cases codes with ⟨none, none'⟩ | ⟨code, code', some, some', same⟩
  · rw [none, none']
    exact .error (.same _)
  · rw [some, some']
    exact .ok ⟨⟨rfl, rfl⟩, same⟩

/-- The frames of two launches are the same up to buffers that are a pair. -/
abbrev PairedFrames (m m' : Machine) (frame frame' : List KernelArg) : Prop :=
  List.Forall₂ (KernelArg.Paired (m.bindings.Pairs m'.bindings)) frame frame'

/-- Without atomic objects both sides bind the same arguments. -/
theorem bindArgs_paired {c : Context} {m m' : Machine} (same : m.bindings.anonymous = m'.bindings.anonymous)
    (free : c.AtomicFree) (args : List LaunchArg) {frame frame' : List KernelArg}
    (frames : PairedFrames m m' frame frame') :
    Op.Paired (fun bound bound' => PairedFrames m m' bound.1 bound'.1 ∧ bound.2 = [] ∧ bound'.2 = [])
      (bindArgs c m args frame []) (bindArgs c m' args frame' []) := by
  induction args generalizing frame frame' with
  | nil => exact .ok ⟨frames, rfl, rfl⟩
  | cons arg rest ih =>
    have longer {arg arg' : KernelArg} (paired : arg.Paired (m.bindings.Pairs m'.bindings) arg') :
        PairedFrames m m' (frame ++ [arg]) (frame' ++ [arg']) :=
      List.rel_append frames (.cons paired .nil)
    cases arg with
    | constant index =>
      refine Op.paired_bind (Op.paired_same (V := Eq) fun _ _ => rfl) fun value _ equal => ?_
      subst equal
      exact ih (longer (.constant value))
    | reference index =>
      refine Op.paired_bind (V := fun entry entry' => entry = entry' ∧ entry.atomic = false)
        (Op.paired_same fun entry found => ⟨rfl, ?_⟩) ?_
      · unfold Context.object at found
        split at found <;> cases found
        next held => exact free entry (List.mem_of_getElem? held)
      rintro entry _ ⟨rfl, plain⟩
      by_cases context : entry.object.isKernelContext
      · rw [if_pos context, if_pos context]
        exact ih (longer .kernelContext)
      rw [if_neg context, if_neg context, if_neg (by simp [plain]), if_neg (by simp [plain])]
      refine Op.paired_bind (boundBuffer_congr same _ _) fun b b' ⟨size, bound, bound'⟩ => ?_
      exact ih (longer (.buffer ⟨index.toNat, b, b', bound, bound', rfl, rfl⟩ size))

/-- Bound launches that are the same up to handles, and that both devices can carry out. -/
structure BoundAlike (b b' : BoundLaunch) (s t : Session) : Prop where
  task : b.task = b'.task
  grid : b.grid = b'.grid
  frames : PairedFrames s.machine t.machine b.frame b'.frame
  without : b.atomics = none
  without' : b'.atomics = none
  awaited : Device.Awaited b.wait b'.wait s.device t.device

private theorem Abreast.binds (abreast : Abreast s t last last') (l : Launch) :
    Op.Mirrors (bindLaunch l) (bindLaunch l) Mirrors BoundAlike s t := by
  have mirrors := abreast.mirrors
  refine Op.mirrors_get ?_
  dsimp only
  rw [mirrors.context, mirrors.machine.schedule, mirrors.machine.config]
  refine Op.mirrors_same_bind mirrors fun task _ => Op.mirrors_modify_bind ?_
  have erased (s : Session) (frames : Table UInt32 (List KernelArg)) : Safe s { s with machine.frames := frames } :=
    Session.safe_of_machine rfl (fun _ => rfl) rfl fun underway => underway.lists
  have abreast := abreast.later (erased s (s.machine.frames.erase l.wrapper))
    (erased t (t.machine.frames.erase l.wrapper)) (mirrors.setFrames _ _)
  have unfilled : PairedFrames s.machine t.machine (emptyFrame s.machine.frames l.wrapper)
      (emptyFrame t.machine.frames l.wrapper) := .nil
  refine Op.mirrors_ofExcept_bind abreast.mirrors
    (bindArgs_paired mirrors.machine.bindings (mirrors.context ▸ abreast.free) l.args unfilled) ?_
  rintro ⟨frame, _⟩ ⟨frame', _⟩ _ _ ⟨frames, rfl, rfl⟩
  refine Op.mirrors_bind (abreast.waits l.list) ?_
  rintro wait wait' u v _ _ mirrors ⟨⟨rfl, rfl⟩, awaited⟩
  have written (wait : List EventId) (tracked : Bool) : (if tracked then wait ++ [] else wait) = wait := by
    rw [List.append_nil, ite_self]
  refine Op.mirrors_after (Op.yields_pure.2 ⟨rfl, rfl⟩) (Op.yields_pure.2 ⟨rfl, rfl⟩) (Op.mirrors_pure mirrors ?_)
  refine ⟨rfl, rfl, frames, rfl, rfl, ?_⟩
  dsimp only
  rw [written, written]
  exact awaited

private theorem Abreast.enqueues (abreast : Abreast s t last last') (l : Launch) {code code' : Binary}
    {b b' : BoundLaunch}
    (binaries : code.anonymous = code'.anonymous) (bound : BoundAlike b b' s t) :
    Op.Mirrors (enqueue l code b) (enqueue l code' b') Mirrors Anything s t := by
  have mirrors := abreast.mirrors
  have pairing := Session.pairing_of_tidy abreast.left.tidy abreast.right.tidy
  obtain ⟨task, grid, frames, without, without', awaited⟩ := bound
  have alive (id id' : BufferId) (pair : s.machine.bindings.Pairs t.machine.bindings id id') :
      ∃ held, s.device.memory.buffers.get? id = some held := by
    obtain ⟨object, c, c', found, _, rfl, _⟩ := pair
    obtain ⟨held, there, _⟩ := abreast.left.tidy.live abreast.left.underway.current object c found
    exact ⟨held, there⟩
  unfold enqueue
  rw [without, without', grid, task]
  refine Op.mirrors_attempt_bind (mirrors_command mirrors (Device.mirrors_launch mirrors.device alive pairing
    abreast.blind binaries frames awaited.1 awaited.2))
    (fun e u starved => Op.Starves.after (a := ()) (Op.yields_modify.2 rfl) (starves_failed b'.task.id starved))
    (fun e u starved => Op.Starves.after (a := ()) (Op.yields_modify.2 rfl) (starves_failed b'.task.id starved)) ?_
  intro r r' _ _ mirrors results
  refine Op.mirrors_modify_bind ?_
  cases results with
  | error alike => exact Op.mirrors_fail (mirrors.setFrames _ _) (MachineError.alike_forTask b'.task.id alike)
  | @ok event event' awaited =>
    refine mirrors_resetList_bind (mirrors.setFrames _ _) l.list awaited fun u v mirrors awaited => ?_
    have known := awaited.1.known event (List.mem_singleton_self _)
    have known' := awaited.2.known event' (List.mem_singleton_self _)
    exact mirrors_measured mirrors (moves_measureLaunch b'.task.id event) (moves_measureLaunch b'.task.id event')
      (measureLaunch_goes awaited.1.sound known) (measureLaunch_goes awaited.2.sound known')

private theorem Abreast.dispatches (abreast : Abreast s t last last') (l : Launch) :
    Op.Mirrors (dispatch l) (dispatch l) Mirrors Anything s t := by
  refine Op.mirrors_bind (mirrors_installedCode abreast.mirrors l) ?_
  rintro code code' _ _ _ _ _ ⟨⟨rfl, rfl⟩, binaries⟩
  refine Op.mirrors_bind (abreast.binds l) fun b b' u v ran ran' mirrors bound => ?_
  exact (abreast.served (serves_bindLaunch abreast.left l) (serves_bindLaunch abreast.right l) ran ran'
    mirrors).enqueues l binaries bound

/-! ### Instructions -/

/-- There is a latest event on both sides or on neither. -/
abbrev SameLast (last last' : Option EventId) (_ _ : Session) : Prop :=
  last.isSome = last'.isSome

private theorem Abreast.bars (abreast : Abreast s t last last') (list : Option UInt32) :
    Op.Mirrors (barrier list) (barrier list) Mirrors Anything s t := by
  refine Op.mirrors_bind (abreast.waits list) ?_
  rintro wait wait' _ _ _ _ mirrors ⟨⟨rfl, rfl⟩, awaits, awaits'⟩
  refine Op.mirrors_bind (mirrors_command mirrors (Device.mirrors_enqueueMarker mirrors.device awaits awaits')) ?_
  intro marker marker' _ _ _ _ mirrors _
  refine Op.mirrors_emit_bind (Op.mirrors_bind (mirrors_resetList mirrors list) ?_)
  exact fun _ _ _ _ _ _ mirrors _ => Op.mirrors_pure mirrors trivial

private theorem mirrors_keepOnDevice (mirrors : Mirrors s t) (object : Nat) :
    Op.Mirrors (keepOnDevice object) (keepOnDevice object) Mirrors Anything s t := by
  refine Op.mirrors_get ?_
  rw [mirrors.context]
  exact Op.mirrors_same_bind mirrors fun _ _ => Op.mirrors_emit mirrors trivial

/-- An instruction that keeps the latest event. -/
theorem mirrors_keeping {op op' : MachineOp α} {V : α → α → Session → Session → Prop}
    (same : last.isSome = last'.isSome) (head : Op.Mirrors op op' Mirrors V s t) :
    Op.Mirrors (do let _ ← op; pure last) (do let _ ← op'; pure last') Mirrors SameLast s t :=
  Op.mirrors_bind head fun _ _ _ _ _ _ mirrors _ => Op.mirrors_pure mirrors same

private theorem mirrors_yielding {op op' : MachineOp EventId} (head : Op.Mirrors op op' Mirrors Anything s t) :
    Op.Mirrors (some <$> op) (some <$> op') Mirrors SameLast s t :=
  Op.mirrors_map head fun _ _ _ _ _ => rfl

/-- Each instruction does the same to both sessions. -/
theorem Abreast.runs (abreast : Abreast s t last last') (offset : Nat) (i : Instruction) :
    Op.Mirrors (runInstruction last offset i) (runInstruction last' offset i) Mirrors SameLast s t := by
  have mirrors := abreast.mirrors
  cases i with
  | alloc batchSize objects => exact mirrors_keeping rfl (mirrors_alloc abreast _ _)
  | dealloc object =>
    exact mirrors_keeping rfl (mirrors_dealloc mirrors abreast.left.tidy abreast.right.tidy _)
  | transfer kind operands =>
    cases kind with
    | inOnce => exact mirrors_keeping abreast.same (mirrors_transferIn abreast _ _)
    | inAlways => exact mirrors_keeping abreast.same (mirrors_transferIn abreast _ _)
    | outAlways => exact mirrors_transferOut abreast _ _
    | outBlocking => exact mirrors_keeping abreast.same (mirrors_transferOut abreast _ _)
  | launch l =>
    refine Op.mirrors_bind (mirrors_compile mirrors l) fun _ _ u v ran ran' mirrors _ => mirrors_yielding ?_
    exact (abreast.served (serves_compile abreast.left l) (serves_compile abreast.right l) ran ran'
      mirrors).dispatches l
  | addDependency list => exact mirrors_keeping abreast.same (mirrors_addDependency mirrors abreast.same _)
  | onDevice object => exact mirrors_keeping rfl (mirrors_keepOnDevice mirrors _)
  | barrier list => exact mirrors_yielding (abreast.bars list)
  | context device => exact Op.mirrors_fail mirrors (.same _)
  | beginPass => exact Op.mirrors_fail mirrors (.same _)
  | endPass => exact Op.mirrors_pure mirrors abreast.same

private theorem mirrors_warmInstruction (mirrors : Mirrors s t) (offset : Nat) (i : Instruction) :
    Op.Mirrors (warmInstruction offset i) (warmInstruction offset i) Mirrors Anything s t := by
  cases i with
  | launch l => exact mirrors_compile mirrors l
  | context device => exact Op.mirrors_fail mirrors (.same _)
  | beginPass => exact Op.mirrors_fail mirrors (.same _)
  | _ => exact Op.mirrors_pure mirrors trivial

private theorem Abreast.steps (abreast : Abreast s t last last') (warmup : Bool) (entry : Entry) :
    Op.Mirrors (stepEntry warmup last entry) (stepEntry warmup last' entry) Mirrors SameLast s t :=
  Op.mirrors_ite Iff.rfl
    (fun _ => mirrors_keeping abreast.same (mirrors_warmInstruction abreast.mirrors _ _))
    fun _ => abreast.runs _ _

/-! ### Passes -/

private theorem mirrors_flush (mirrors : Mirrors s t) :
    Op.Mirrors (Session.onDevice Device.flush) (Session.onDevice Device.flush) Mirrors Anything s t :=
  have goes (s : Session) : Op.Goes (Session.onDevice Device.flush) s :=
    ⟨(), _, yields_onDevice.2 ⟨_, Op.yields_modify.2 rfl, rfl⟩, trivial⟩
  mirrors_measured mirrors (moves_onDevice (Device.still_count _)) (moves_onDevice (Device.still_count _)) (goes s)
    (goes t)

/-- A run ends with a marker on both sides or on neither. -/
theorem Abreast.ends (abreast : Abreast s t last last') (warmup : Bool) :
    Op.Mirrors (endPass warmup) (endPass warmup) Mirrors SameLast s t := by
  have mirrors := abreast.mirrors
  refine Op.mirrors_ite Iff.rfl (fun _ => Op.mirrors_pure mirrors rfl) fun _ => Op.mirrors_get ?_
  dsimp only
  rw [mirrors.machine.config]
  have flushed {u v : Session} {marker marker' : Option EventId} (mirrors : Mirrors u v)
      (same : marker.isSome = marker'.isSome) : Op.Mirrors
      (do
        if t.machine.config.flushOnEnd then Session.onDevice Device.flush else pure ()
        pure marker : MachineOp (Option EventId))
      (do
        if t.machine.config.flushOnEnd then Session.onDevice Device.flush else pure ()
        pure marker' : MachineOp (Option EventId)) Mirrors SameLast u v :=
    Op.mirrors_ite Iff.rfl (fun _ => Op.mirrors_bind (mirrors_flush mirrors) fun _ _ _ _ _ _ mirrors _ =>
      Op.mirrors_pure mirrors same) fun _ => Op.mirrors_pure mirrors same
  refine Op.mirrors_ite Iff.rfl (fun _ => ?_) fun _ => flushed mirrors rfl
  have awaits {s : Session} {last : Option EventId} (passing : MidPass s last) : s.device.Awaits [] :=
    ⟨passing.sound, List.forall_mem_nil _⟩
  refine Op.mirrors_bind (mirrors_yielding (mirrors_command mirrors
    (Device.mirrors_enqueueMarker mirrors.device (awaits abreast.left) (awaits abreast.right)))) ?_
  exact fun _ _ _ _ _ _ mirrors same => flushed mirrors same

private theorem Abreast.runsEntries (warmup : Bool) (stop : ScanStop) (entries : List Entry) {s t : Session}
    {last last' : Option EventId} (abreast : Abreast s t last last') :
    Op.Mirrors (runEntries warmup stop last entries) (runEntries warmup stop last' entries) Mirrors SameLast s t := by
  induction entries generalizing s t last last' with
  | nil =>
    unfold runEntries
    cases stop with
    | failed e => exact Op.mirrors_fail abreast.mirrors (.same _)
    | exhausted offset => exact abreast.ends warmup
    | ended => exact abreast.ends warmup
  | cons entry rest ih =>
    refine Op.mirrors_after traceEntry_yields traceEntry_yields ?_
    refine Op.mirrors_ite Iff.rfl (fun _ => abreast.ends warmup) fun _ => ?_
    refine Op.mirrors_bind (abreast.steps warmup entry) fun last last' u v ran ran' mirrors same => ih ?_
    have left : Op.Serves (stepEntry warmup _ entry) Safe Excused (fun last t => MidPass t last) s :=
      serves_stepEntry abreast.left entry
    have right : Op.Serves (stepEntry warmup _ entry) Safe Excused (fun last t => MidPass t last) t :=
      serves_stepEntry abreast.right entry
    have later := abreast.served left right ran ran' mirrors
    exact ⟨mirrors, (left.yields ran).2, (right.yields ran').2, same, later.blind, later.free⟩

private theorem mirrors_startPass (mirrors : Mirrors s t) : Op.Mirrors startPass startPass Mirrors Anything s t := by
  refine Op.mirrors_modify_bind (mirrors_syncEpoch (mirrors.setMachine ?_ fun _ _ pair => pair))
  exact mirrors.machine.setLists (EventLists.resetAll_congr mirrors.machine.lists)

/-- Two sessions whose machines have nothing to do at the moment. -/
structure Level (s t : Session) : Prop where
  mirrors : Mirrors s t
  left : s.machine.Tidy s.device
  right : t.machine.Tidy t.device
  blind : s.device.Blind
  free : s.context.AtomicFree

private theorem mirrors_pass (level : Level s t) (warmup : Bool) :
    Op.Mirrors (pass warmup) (pass warmup) Mirrors SameLast s t := by
  refine Op.mirrors_bind (mirrors_startPass level.mirrors) fun _ _ u v ran ran' mirrors _ => Op.mirrors_get ?_
  obtain ⟨safe, passing⟩ := (serves_startPass level.left).yields ran
  obtain ⟨safe', passing'⟩ := (serves_startPass level.right).yields ran'
  rw [mirrors.machine.program]
  refine Abreast.runsEntries warmup _ _ ⟨mirrors, passing, passing', rfl, ?_, safe.atomicFree.2 level.free⟩
  exact fun name kernel found => level.blind name kernel (safe.kernels ▸ found)

private theorem mirrors_concludePass (mirrors : Mirrors s t) (warmup : Bool)
    {r r' : Except MachineError (Option EventId)} (same : Op.Paired (fun a b => a.isSome = b.isSome) r r') :
    Op.Mirrors (concludePass warmup r) (concludePass warmup r') Mirrors Anything s t := by
  cases same with
  | error alike => exact Op.mirrors_emit mirrors trivial
  | ok same =>
    refine Op.mirrors_modify_bind (Op.mirrors_get (Op.mirrors_emit (mirrors.setMachine ?_ fun _ _ pair => pair) trivial))
    exact mirrors.machine.change (fun m =>
      let stats := { m.stats with recompilations := m.cache.recompilations }
      { m with
        stats :=
          if warmup then { stats with warmups := stats.warmups + 1 }
          else { stats with invocations := stats.invocations + 1 } }) fun _ => rfl

/-- A pass does the same on both sides: it ends alike, with a marker on both sides or on neither. -/
theorem mirrors_execute (level : Level s t) (mode : Mode) :
    Op.Mirrors (execute mode) (execute mode) Mirrors SameLast s t := by
  have mirrors := level.mirrors
  refine Op.mirrors_get ?_
  dsimp only
  rw [mirrors.context, mirrors.machine.config]
  refine Op.mirrors_ite Iff.rfl (fun _ => Op.mirrors_fail mirrors (.same _)) fun _ => ?_
  refine Op.mirrors_emit_bind ?_
  have ends (warmup : Bool) (e : MachineError) (u : Session) (starved : Op.Scarce.starved e u) : Op.Starves (do
      concludePass warmup (.error e)
      Op.emit Performance.spanComplete
      (Op.ofExcept (.error e) : MachineOp (Option EventId))) u :=
    Op.Starves.after (a := ()) (Op.yields_emit.2 rfl)
      (Op.Starves.after (a := ()) (Op.yields_emit.2 rfl) ⟨e, rfl, starved⟩)
  refine Op.mirrors_attempt_bind (mirrors_pass level _) (ends _) (ends _) fun r r' _ _ mirrors same => ?_
  refine Op.mirrors_bind (mirrors_concludePass mirrors _ same) fun _ _ _ _ _ _ mirrors _ => Op.mirrors_emit_bind ?_
  exact Op.mirrors_ofExcept mirrors same

private theorem mirrors_setFinished (mirrors : Mirrors s t) (finished : Bool) :
    Mirrors { s with machine.finishedWarmup := finished } { t with machine.finishedWarmup := finished } :=
  mirrors.setMachine (mirrors.machine.change (fun m => { m with finishedWarmup := finished }) fun _ => rfl)
    fun _ _ pair => pair

/-- So does a warmup. -/
theorem mirrors_warmup (level : Level s t) : Op.Mirrors warmup warmup Mirrors Anything s t := by
  have cold : Level { s with machine.finishedWarmup := false } { t with machine.finishedWarmup := false } :=
    ⟨mirrors_setFinished level.mirrors false, (safe_setFinished false).tidy level.left,
      (safe_setFinished false).tidy level.right, level.blind, level.free⟩
  refine Op.mirrors_modify_bind (Op.mirrors_bind (mirrors_execute cold .warmup) ?_)
  exact fun _ _ _ _ _ _ mirrors _ => Op.mirrors_modify (mirrors_setFinished mirrors true) trivial

end Offload.Machine
