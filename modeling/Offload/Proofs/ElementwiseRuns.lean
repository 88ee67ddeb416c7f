import Offload.Proofs.Binaries
import Offload.Proofs.Fitting
import Offload.Proofs.Programs
import Offload.Proofs.Slices

/-! Runs that work on an array of integers slice by slice: each slice is copied to the start of a buffer,
launched over and copied back. Behind the slices that were done the array holds what the kernel makes of
it, and in front of the others it is as it was, whatever the buffer holds. -/
namespace Offload

/-- The call wrapper, the task and the object that a program names. -/
structure Operands where
  wrapper : UInt32
  task : UInt32
  object : UInt32

namespace Operands

variable (o : Operands)

/-- A copy of a slice. -/
def copy (b : Batch) : Transfer :=
  ⟨o.object, none, b.offset, b.size⟩

/-- A launch over a slice of 32-bit integers. -/
def call (b : Batch) : Launch :=
  ⟨o.wrapper, o.task, none, b.offset / 4, b.size / 4, [.reference o.object]⟩

/-- A slice there, over it, and back. -/
def slice (b : Batch) : List Instruction :=
  [.transfer .inAlways (o.copy b), .launch (o.call b), .transfer .outBlocking (o.copy b)]

/-- A buffer, and then all slices. -/
def body (buffer : UInt64) (slices : List Batch) : List Instruction :=
  .alloc buffer [o.object] :: slices.flatMap o.slice

def program (device : UInt32) (buffer : UInt64) (slices : List Batch) : Assembly :=
  { instructions := .context device :: .beginPass :: (o.body buffer slices ++ [.endPass]) }

end Operands

/-- A task at work on an object: the operands that name both, the buffer of the object, and what the
kernel makes of a global index and a value. -/
structure Job where
  operands : Operands
  task : Task
  buffer : DeviceBuffer
  change : Nat → Int32 → Int32
  /-- The epoch of the device and of the machine. -/
  epoch : Nat

namespace Job

/-- The task can be compiled and launched on the object, the host array is `host`, and its buffer holds
`held`. -/
structure Stage (j : Job) (host held : List Int32) (s : Session) : Prop where
  object : ∃ entry, s.context.object j.operands.object.toNat = .ok entry ∧ entry.atomic = false ∧
    entry.object = .ofInt32s host
  task : s.context.task j.operands.task.toNat = .ok j.task
  bound : ∃ binding, s.machine.bindings.get j.operands.object.toNat = .ok binding ∧
    binding.buffer = some j.buffer
  held : s.device.memory.contents j.buffer.id = .ok (Bytes.ofInt32s held)
  epoch : s.device.epoch = j.epoch
  known : s.machine.epoch = j.epoch
  compiles : s.device.checkTask j.task = .ok ()
  kernel : ∃ kernel, s.device.kernels.get? j.task.kernel = some kernel ∧ kernel.Maps j.change
  schedule : s.machine.schedule = {}

variable {j : Job} {host held held' : List Int32} {s t : Session}

namespace Stage

private theorem of_quiet (stage : j.Stage host held s) (quiet : Session.Quiet s t) : j.Stage host held t := by
  refine (quiet.view (j.Stage host held) fun s => propext ?_).mpr stage
  exact ⟨fun ⟨a, b, c, d, e, f, g, h, i⟩ => ⟨a, b, c, d, e, f, g, h, i⟩,
    fun ⟨a, b, c, d, e, f, g, h, i⟩ => ⟨a, b, c, d, e, f, g, h, i⟩⟩

private theorem of_alike (stage : j.Stage host held s) (alike : Session.Alike s t) : j.Stage host held t := by
  refine (Session.alike_view (j.Stage host held) (fun s => propext ?_) alike).mp stage
  exact ⟨fun ⟨a, b, c, d, e, f, g, h, i⟩ => ⟨a, b, c, d, e, f, g, h, i⟩,
    fun ⟨a, b, c, d, e, f, g, h, i⟩ => ⟨a, b, c, d, e, f, g, h, i⟩⟩

/-- The device has overwritten the buffer. -/
theorem overwritten (stage : j.Stage host held s) {memory : Memory} {reports : List KernelReport}
    {device : Device} (holds : memory.contents j.buffer.id = .ok (Bytes.ofInt32s held'))
    (data : device.data = { s.device with memory, reports }.data) :
    j.Stage host held' { s with device } := by
  have written : j.Stage host held' { s with device := { s.device with memory, reports } } :=
    ⟨stage.object, stage.task, stage.bound, holds, stage.epoch, stage.known, stage.compiles, stage.kernel,
      stage.schedule⟩
  exact written.of_quiet ⟨congrArg (fun d : Device => ({ s.data with device := d } : Session)) data, rfl⟩

/-- The host array has been replaced. -/
theorem stored (stage : j.Stage host held s) (host' : List Int32) {device : Device}
    (data : device.data = s.device.data) :
    j.Stage host' held { s with
      context := s.context.setObject j.operands.object.toNat (.ofInt32s host'), device } := by
  obtain ⟨entry, found, plain, _⟩ := stage.object
  have found' : (s.context.setObject j.operands.object.toNat (.ofInt32s host')).object j.operands.object.toNat =
      .ok { entry with object := .ofInt32s host' } := by
    rw [Context.object] at found ⊢
    rcases here : s.context.objects[j.operands.object.toNat]? with _ | old <;> rw [here] at found <;> cases found
    simp [Context.setObject, here]
  have stored : j.Stage host' held { s with
      context := s.context.setObject j.operands.object.toNat (.ofInt32s host') } :=
    ⟨⟨_, found', plain, rfl⟩, stage.task, stage.bound, stage.held, stage.epoch, stage.known, stage.compiles,
      stage.kernel, stage.schedule⟩
  exact stored.of_quiet ⟨congrArg (fun d : Device => ({ s.data with
    context := s.context.setObject j.operands.object.toNat (.ofInt32s host'), device := d } : Session)) data, rfl⟩

private theorem setContent (stage : j.Stage host held s) (present : Bool) :
    j.Stage host held { s with machine.bindings :=
      s.machine.bindings.modify j.operands.object.toNat fun b => b.setContent present } := by
  obtain ⟨binding, found, bound⟩ := stage.bound
  have found' : (s.machine.bindings.modify j.operands.object.toNat fun b => b.setContent present).get
      j.operands.object.toNat = .ok (binding.setContent present) := by
    rw [Bindings.get_ok_iff] at found ⊢
    simp [Bindings.modify, found]
  exact ⟨stage.object, stage.task, ⟨_, found', bound⟩, stage.held, stage.epoch, stage.known, stage.compiles,
    stage.kernel, stage.schedule⟩

private theorem boundBuffer (stage : j.Stage host held s) (use : BufferUse) :
    s.machine.boundBuffer use j.operands.object.toNat = .ok j.buffer := by
  obtain ⟨binding, found, bound⟩ := stage.bound
  simp [Machine.boundBuffer, found, bound, bind, Except.bind]

end Stage

/-! ### Copies -/

section Copies

variable {b : Batch} {first count : Nat}

/-- The slice takes `count` integers from the one at `first` on. -/
def Covers (j : Job) (b : Batch) (size first count : Nat) : Prop :=
  Machine.transferRange (j.operands.copy b) (4 * size) = .ok ⟨4 * first, 4 * count⟩

private theorem Covers.range (covers : j.Covers b host.length first count) :
    Machine.transferRange (j.operands.copy b) (HostObject.ofInt32s host).byteSize =
      .ok ⟨4 * first, 4 * count⟩ := by
  rw [HostObject.byteSize_ofInt32s]
  exact covers

private theorem waitList_none : Op.Yields (Machine.waitList none) s [] s :=
  Op.yields_bind.2 ⟨s, s, Op.yields_get.2 ⟨rfl, rfl⟩, Op.yields_ofExcept.2 ⟨rfl, rfl⟩⟩

private theorem resetList_none : Op.Yields (Machine.resetList none) s () s :=
  Op.yields_step.2 rfl

/-- To measure a copy leaves the stage as it is. -/
theorem profileTransfer_reaches {event : EventId} {timer : TimerKind} {metric : MetricKind} {object bytes : Nat}
    (stage : j.Stage host held s) (sound : s.device.events.Sound) (known : s.device.events.Knows event) :
    Op.Reaches (Machine.profileTransfer [event] timer metric object bytes) s fun _ t =>
      j.Stage host held t ∧ t.machine.cache = s.machine.cache ∧ t.device.events.Sound := by
  have goes : Op.Goes (Machine.profileTransfer [event] timer metric object bytes) s := by
    refine Machine.profileTransfer_goes sound fun e member => ?_
    rw [List.mem_singleton.1 member]
    exact known
  exact (Machine.reaches_quiet (Machine.moves_profileTransfer _ _ _ _ _)
    (Machine.moves_profileTransfer _ _ _ _ _) sound goes).weaken fun _ t ⟨quiet, sound⟩ =>
      ⟨stage.of_quiet quiet, quiet.view (fun s => s.machine.cache) fun _ => rfl, sound⟩

/-- A slice of the host array is copied over the start of the buffer. -/
theorem transferIn_reaches (stage : j.Stage host held s) (sound : s.device.events.Sound)
    (covers : j.Covers b host.length first count) (inside : first + count ≤ host.length)
    (room : count ≤ held.length) :
    Op.Reaches (Machine.transferIn (j.operands.copy b) false) s fun _ t =>
      j.Stage host ((host.drop first).take count ++ held.drop count) t ∧
        t.machine.cache = s.machine.cache ∧ t.device.events.Sound := by
  obtain ⟨⟨object, access, atomic⟩, found, _, rfl⟩ := stage.object
  obtain ⟨binding, known, _⟩ := stage.bound
  have taken : ((host.drop first).take count).length = count := by
    rw [List.length_take, List.length_drop]
    omega
  refine Op.reaches_get (Op.reaches_ofExcept_bind found ?_)
  refine Op.reaches_ite (fun context => nomatch context) fun _ => ?_
  refine Op.reaches_ofExcept_bind (stage.boundBuffer _) (Op.reaches_ofExcept_bind known ?_)
  refine Op.reaches_ite (fun once => nomatch once.1) fun _ => ?_
  refine Op.reaches_ofExcept_bind covers.range (Op.reaches_after waitList_none ?_)
  obtain ⟨_, device, streamed, memory, event, rfl, holds, recorded⟩ :=
    Device.streamIn_reaches ⟨4 * first, 4 * count⟩ (HostObject.readRange_ofInt32s inside) stage.held
      (by simp [taken]; omega) sound (List.forall_mem_nil _)
  rw [Bytes.length_ofInt32s, taken, Bytes.drop_ofInt32s, ← Bytes.ofInt32s_append] at holds
  have copied := stage.overwritten holds recorded.data
  refine Op.reaches_after (Machine.yields_onDevice.2 ⟨device, streamed, rfl⟩) (Op.reaches_ite (fun _ => ?_) fun _ => ?_)
  · refine Op.reaches_modify_bind (Op.reaches_after resetList_none ?_)
    exact profileTransfer_reaches (copied.setContent true) recorded.sound recorded.known
  · exact Op.reaches_after resetList_none (profileTransfer_reaches copied recorded.sound recorded.known)

/-- The start of the buffer is copied over a slice of the host array. -/
theorem transferOut_reaches (stage : j.Stage host held s) (sound : s.device.events.Sound)
    (covers : j.Covers b host.length first count) (inside : first + count ≤ host.length)
    (room : count ≤ held.length) :
    Op.Reaches (Machine.transferOut (j.operands.copy b) true) s fun _ t =>
      j.Stage (host.take first ++ held.take count ++ host.drop (first + count)) held t ∧
        t.machine.cache = s.machine.cache ∧ t.device.events.Sound := by
  obtain ⟨⟨object, access, atomic⟩, found, _, rfl⟩ := stage.object
  have taken : (held.take count).length = count := by
    rw [List.length_take, Nat.min_eq_left room]
  have written : (HostObject.ofInt32s host).writeRange (4 * first) (Bytes.ofInt32s (held.take count)) = _ :=
    HostObject.writeRange_ofInt32s (by rw [taken]; exact inside)
  rw [taken] at written
  refine Op.reaches_get (Op.reaches_ofExcept_bind found ?_)
  refine Op.reaches_ite (fun context => nomatch context) fun _ => ?_
  refine Op.reaches_ofExcept_bind (stage.boundBuffer _) ?_
  refine Op.reaches_ofExcept_bind covers.range (Op.reaches_after waitList_none ?_)
  obtain ⟨event, ⟨_, device⟩, streamed, rfl, recorded⟩ :=
    Device.streamOutBlocking_reaches ⟨4 * first, 4 * count⟩ stage.held (by simp; omega)
      (by rw [Bytes.take_ofInt32s]; exact written) sound (List.forall_mem_nil _)
  refine Op.reaches_after (Op.yields_onPart.2 ⟨_, Op.yields_mapError.2 streamed, rfl⟩) ?_
  refine Op.reaches_after resetList_none (Op.reaches_bind (profileTransfer_reaches ?_ recorded.sound recorded.known)
    fun _ t _ holds => Op.reaches_pure holds)
  exact stage.stored _ recorded.data

end Copies

/-! ### Launches -/

section Launches

variable {l : Launch} {b : Batch} {slot : CacheSlot} {code : Binary} {threads : Nat}

/-- Whatever binary is left in the slot was built for the task and for the threads that the slot has. -/
def Reusable (j : Job) (slot : CacheSlot) : Prop :=
  ∀ code, slot.code = some code → code.kernel = j.task.kernel ∧ code.epoch = j.epoch ∧
    code.batchThreads = slot.batchThreads ∧ slot.batchThreads ≠ 0

/-- The slot holds a binary for the task that was built for these threads. -/
structure Built (j : Job) (threads : Nat) (slot : CacheSlot) (code : Binary) : Prop where
  found : slot.code = some code
  kernel : code.kernel = j.task.kernel
  epoch : code.epoch = j.epoch
  batch : code.batchThreads = threads
  remembered : slot.batchThreads = threads

private theorem Built.reusable (built : j.Built threads slot code) (batched : threads ≠ 0) : j.Reusable slot := by
  intro other found
  cases built.found.symm.trans found
  exact ⟨built.kernel, built.epoch, built.batch.trans built.remembered.symm, built.remembered.symm ▸ batched⟩

private theorem built_of_fit {indexInWrite : Bool} (reusable : j.Reusable slot)
    (kept : (slot.fit threads indexInWrite).code = some code) :
    j.Built threads (slot.fit threads indexInWrite) code := by
  have held := kept
  rw [CacheSlot.code_fit] at held
  split at held
  · cases held
  next fits =>
    obtain ⟨kernel, epoch, built, batched⟩ := reusable code held
    -- A slot that remembers another number of threads would have been rebuilt.
    have same : slot.batchThreads = threads := by
      simp [CacheSlot.recompilationNeeded, held, batched] at fits
      exact fits.1
    exact ⟨kept, kernel, epoch, built.trans same, CacheSlot.batchThreads_fit⟩

/-- The slot ends up with a binary for the batch, one from before or a new one. -/
theorem compile_reaches (stage : j.Stage host held s) (sound : s.device.events.Sound)
    (task : l.task = j.operands.task) (found : s.machine.cache.slots[l.task.toNat]? = some slot)
    (reusable : j.Reusable slot) :
    Op.Reaches (Machine.compile l) s fun _ t => j.Stage host held t ∧ t.device.events.Sound ∧
      ∃ slot' code, t.machine.cache.slots[l.task.toNat]? = some slot' ∧
        j.Built l.batchThreads.toNat slot' code := by
  refine Op.reaches_after (a := ()) (Machine.yields_syncEpoch.2 (.inl ⟨stage.epoch.trans stage.known.symm, rfl⟩)) ?_
  have alike {t : Session} (ran : Op.Yields (Machine.fitCode l) s () t) : Session.Alike s t := by
    rw [← ran.2]
    exact Machine.alike_fitCode l s
  have ready := Machine.prepared_slot j.task found
  suffices ∃ t, Op.Yields (Machine.fitCode l) s () t ∧ ∃ slot' code,
      t.machine.cache.slots[l.task.toNat]? = some slot' ∧ j.Built l.batchThreads.toNat slot' code by
    obtain ⟨t, ran, built⟩ := this
    refine ⟨(), t, ran, stage.of_alike (alike ran), ?_, built⟩
    rw [← Session.alike_view (fun s => s.device.events) (fun _ => rfl) (alike ran)]
    exact sound
  rcases Machine.fitCode_cases l s with ⟨e, unknown, _⟩ | ⟨task', known, outcome⟩
  · rw [task, stage.task] at unknown
    cases unknown
  rw [task, stage.task] at known
  cases known
  rcases outcome with ⟨fits, ran⟩ | ⟨_, result, state⟩
  · rw [← Bool.not_eq_true, CodeCache.needsCompile_iff, CodeCache.slot_eq ready] at fits
    obtain ⟨code, kept⟩ := Option.ne_none_iff_exists'.1 fits
    exact ⟨_, ran, _, code, ready, built_of_fit reusable kept⟩
  · rcases Machine.buildCode_cases (Machine.prepared s l j.task) l.task.toNat j.task with
      ⟨e, refused, _⟩ | ⟨_, built⟩
    · cases stage.compiles.symm.trans refused
    refine ⟨_, ⟨result.trans built.1, state.trans built.2⟩, _, _,
      ((CodeCache.install_slots _ ready).symm ▸ List.getElem?_set_self (List.getElem?_eq_some_iff.1 ready).1),
      CacheSlot.code_install rfl, rfl, stage.epoch, ?_, CacheSlot.batchThreads_fit⟩
    exact (Machine.slotBinary_fields j.task ready).1.trans CacheSlot.batchThreads_fit

/-- How many threads a launch over a slice has, if they can be counted. -/
def threadsOf? (j : Job) (b : Batch) : Option Nat :=
  if 0 < (b.size / 4).toNat then some (b.size / 4).toNat else j.task.grid.totalThreads?

private theorem Stage.setFrames (stage : j.Stage host held s) (frames : Table UInt32 (List KernelArg)) :
    j.Stage host held { s with machine.frames := frames } :=
  ⟨stage.object, stage.task, stage.bound, stage.held, stage.epoch, stage.known, stage.compiles, stage.kernel,
    stage.schedule⟩

private theorem Stage.bindArgs (stage : j.Stage host held s) :
    Machine.bindArgs s.context s.machine [.reference j.operands.object] [] [] = .ok ([.buffer j.buffer], []) := by
  obtain ⟨⟨object, access, atomic⟩, found, rfl, rfl⟩ := stage.object
  have plain : (HostObject.ofInt32s host).isKernelContext = false := rfl
  simp [Machine.bindArgs, found, plain, stage.boundBuffer, bind, Except.bind]

/-- A launch over a slice with its arguments: the buffer alone. -/
def boundLaunch (j : Job) (b : Batch) : Machine.BoundLaunch :=
  { task := j.task
    frame := [.buffer j.buffer]
    atomics := none
    grid := Machine.launchGrid {} j.task (b.size / 4).toNat
    wait := [] }

private theorem installedCode_yields (l : Launch) {task : Task} (held : s.context.task l.task.toNat = .ok task)
    (installed : s.machine.cache.code l.task.toNat = some code) : Op.Yields (Machine.installedCode l) s code s := by
  refine Op.yields_bind.2 ⟨s, s, Op.yields_get.2 ⟨rfl, rfl⟩, Op.yields_bind.2 ⟨task, s, ?_, ?_⟩⟩
  · exact Op.yields_ofExcept.2 ⟨held, rfl⟩
  · simp only [installed, Op.yields_ofExcept, and_self]

private theorem bindLaunch_reaches (stage : j.Stage host held s) :
    Op.Reaches (Machine.bindLaunch (j.operands.call b)) s fun bound t =>
      bound = j.boundLaunch b ∧ t = { s with machine.frames := s.machine.frames.erase j.operands.wrapper } := by
  refine Op.reaches_get (Op.reaches_ofExcept_bind stage.task (Op.reaches_modify_bind ?_))
  refine Op.reaches_ofExcept_bind stage.bindArgs (Op.reaches_after waitList_none ?_)
  refine Op.reaches_after (a := (none, [])) (Op.yields_pure.2 ⟨rfl, rfl⟩) (Op.reaches_pure ⟨?_, rfl⟩)
  simp [boundLaunch, stage.schedule, Operands.call]

/-- What the kernel is given for a launch over a slice. -/
def invocation (j : Job) (b : Batch) (code : Binary) : Invocation :=
  .ofLaunch code [.buffer j.buffer] none (j.boundLaunch b).grid (b.offset / 4).toNat

private theorem threads_invocation {threads : Nat} (built : j.Built (b.size / 4).toNat slot code)
    (counted : j.threadsOf? b = some threads) : (j.invocation b code).threads = .ok threads := by
  have batch : (j.invocation b code).batchThreads = (b.size / 4).toNat := built.batch
  unfold threadsOf? at counted
  unfold Invocation.threads
  rw [batch]
  split at counted
  next batched =>
    cases counted
    exact if_pos batched
  next unbatched =>
    have grid : (j.invocation b code).grid = j.task.grid := if_neg unbatched
    rw [if_neg unbatched, grid, Grid.counted, counted]

private theorem Built.good (built : j.Built threads slot code) {d : Device} {kernel : Kernel}
    (epoch : d.epoch = j.epoch)
    (registered : d.kernels.get? j.task.kernel = some kernel) : d.kernelOf code = .ok kernel := by
  have valid := (Option.filter_eq_some_iff.1 built.found).2
  rw [Device.kernelOf, built.kernel, registered, if_neg]
  simp [valid, built.epoch, epoch]

/-- The kernel runs over the start of the buffer. -/
theorem dispatch_reaches (stage : j.Stage host held s) (sound : s.device.events.Sound)
    (found : s.machine.cache.slots[j.operands.task.toNat]? = some slot)
    (built : j.Built (b.size / 4).toNat slot code) {threads : Nat} (counted : j.threadsOf? b = some threads) :
    Op.Reaches (Machine.dispatch (j.operands.call b)) s fun _ t =>
      j.Stage host (Kernel.onThreads j.change threads (b.offset / 4).toNat held) t ∧
        t.machine.cache = s.machine.cache ∧ t.device.events.Sound := by
  have installed : s.machine.cache.code j.operands.task.toNat = some code := by
    rw [CodeCache.code, CodeCache.slot_eq found]
    exact built.found
  refine Op.reaches_after (a := code) (t := s) (installedCode_yields (j.operands.call b) stage.task installed) ?_
  refine Op.reaches_bind (bindLaunch_reaches stage) fun bound _ _ unchanged => ?_
  obtain ⟨rfl, rfl⟩ := unchanged
  obtain ⟨kernel, registered, maps⟩ := stage.kernel
  have threads := threads_invocation built counted
  obtain ⟨memory, reports, ran, holds⟩ := maps (v := j.invocation b code) rfl threads stage.held
  obtain ⟨event, device, launched, recorded⟩ :=
    Device.launch_reaches (built.good stage.epoch registered) threads ran sound
  have worked := stage.overwritten holds recorded.data
  refine Op.reaches_after (Op.yields_attempt.2 (Machine.yields_onDevice.2 ⟨device, launched, rfl⟩)) ?_
  refine Op.reaches_modify_bind (Op.reaches_after resetList_none ?_)
  exact (Machine.reaches_quiet (Machine.moves_measureLaunch _ _)
    (Machine.moves_measureLaunch _ _) recorded.sound
    (Machine.measureLaunch_goes recorded.sound recorded.known)).weaken fun _ t settled =>
      ⟨(worked.setFrames _).of_quiet settled.1, settled.1.view (fun s => s.machine.cache) fun _ => rfl,
        settled.2⟩

end Launches

/-! ### Slices -/

section Slices

variable {b : Batch} {values : List Int32} {first count limit offset : Nat} {slot : CacheSlot} {last : Option EventId}
  {entries rest : List Entry} {P Q : Session → Prop}

/-- One instruction, and then the others. -/
theorem runPrefix_next {i : Instruction} (step : Op.Reaches (Machine.runInstruction last offset i) s fun _ t => P t)
    (others : ∀ last t, P t → Op.Reaches (Machine.runPrefix false last rest) t fun _ t => Q t) :
    Op.Reaches (Machine.runPrefix false last (⟨offset, i⟩ :: rest)) s fun _ t => Q t :=
  Op.reaches_after Machine.traceEntry_yields (Op.reaches_bind step fun last t _ holds => others last t holds)

/-- A slice is worked on. The array is done up to its end then, and the next slice finds what this one
found. -/
theorem slice_reaches (stage : j.Stage (Kernel.onThreads j.change first 0 values) held s)
    (sound : s.device.events.Sound) (found : s.machine.cache.slots[j.operands.task.toNat]? = some slot)
    (reusable : j.Reusable slot) (covers : j.Covers b values.length first count)
    (begins : (b.offset / 4).toNat = first) {threads : Nat} (counted : j.threadsOf? b = some threads)
    (enough : count ≤ threads) (inside : first + count ≤ values.length) (room : count ≤ held.length)
    (spelled : entries.map Entry.instruction = j.operands.slice b) :
    Op.Reaches (Machine.runPrefix false last entries) s fun _ t => ∃ held' slot' code,
      j.Stage (Kernel.onThreads j.change (first + count) 0 values) held' t ∧ held'.length = held.length ∧
        t.device.events.Sound ∧ t.machine.cache.slots[j.operands.task.toNat]? = some slot' ∧
        j.Built (b.size / 4).toNat slot' code := by
  obtain ⟨⟨o₁, _⟩, _, rfl, rfl, later⟩ := List.map_eq_cons_iff.1 spelled
  obtain ⟨⟨o₂, _⟩, _, rfl, rfl, back⟩ := List.map_eq_cons_iff.1 later
  obtain ⟨⟨o₃, _⟩, _, rfl, rfl, none⟩ := List.map_eq_cons_iff.1 back
  cases List.map_eq_nil_iff.1 none
  let host := Kernel.onThreads j.change first 0 values
  have whole : host.length = values.length := Kernel.length_onThreads ..
  rw [← whole] at covers inside
  let part := (host.drop first).take count
  have taken : part.length = count := by
    rw [List.length_take, List.length_drop]
    omega
  refine runPrefix_next (P := fun t => j.Stage host (part ++ held.drop count) t ∧
      t.machine.cache.slots[j.operands.task.toNat]? = some slot ∧ t.device.events.Sound)
    (Op.reaches_bind (transferIn_reaches stage sound covers inside room) fun _ t _ ⟨stage, cache, sound⟩ =>
      Op.reaches_pure ⟨stage, cache ▸ found, sound⟩) fun _ t ⟨stage, found, sound⟩ => ?_
  let held' := Kernel.onThreads j.change threads first (part ++ held.drop count)
  have size : held'.length = held.length := by
    rw [Kernel.length_onThreads, List.length_append, List.length_drop, taken]
    omega
  refine runPrefix_next (P := fun t => ∃ slot' code, j.Stage host held' t ∧
        t.machine.cache.slots[j.operands.task.toNat]? = some slot' ∧ j.Built (b.size / 4).toNat slot' code ∧
        t.device.events.Sound)
    (Op.reaches_bind (compile_reaches (l := j.operands.call b) stage sound rfl found reusable)
      fun _ t _ ⟨stage, sound, slot', code, found, built⟩ => Op.reaches_map ?_)
    fun _ t ⟨slot', code, stage, found, built, sound⟩ => ?_
  · have launched := dispatch_reaches stage sound found built counted
    rw [begins] at launched
    exact launched.weaken fun _ t ⟨stage, cache, sound⟩ => ⟨slot', code, stage, cache ▸ found, built, sound⟩
  -- The slice was replaced as a whole, and so its place in the array is done.
  have next : host.take first ++ held'.take count ++ host.drop (first + count) =
      Kernel.onThreads j.change (first + count) 0 values := by
    have replaced : held'.take count = part.mapIdx fun i value => j.change (first + i) value := by
      rw [← taken]
      exact Kernel.take_onThreads (taken ▸ enough)
    rw [replaced]
    exact Kernel.onThreads_next (whole ▸ inside)
  refine runPrefix_next (P := fun t => j.Stage (Kernel.onThreads j.change (first + count) 0 values) held' t ∧
      t.machine.cache.slots[j.operands.task.toNat]? = some slot' ∧ t.device.events.Sound)
    (Op.reaches_bind (transferOut_reaches stage sound covers inside (size ▸ room))
      fun _ t _ ⟨stage, cache, sound⟩ => Op.reaches_pure ⟨next ▸ stage, cache ▸ found, sound⟩)
    fun _ t ⟨stage, found, sound⟩ => Op.reaches_pure ⟨held', slot', code, stage, size, sound, found, built⟩

private theorem runPrefix_append (last : Option EventId) (done rest : List Entry) :
    Machine.runPrefix false last (done ++ rest) = (do
      let last ← Machine.runPrefix false last done
      Machine.runPrefix false last rest) := by
  induction done generalizing last with
  | nil => exact (Op.pure_bind last fun last => Machine.runPrefix false last rest).symm
  | cons entry done ih =>
    simp only [List.cons_append, Machine.runPrefix, Op.bind_assoc]
    congr 1
    funext _
    congr 1
    funext last
    exact ih last

private theorem covers_of_tile (offset : b.offset.toNat = 4 * first) (size : b.size.toNat = 4 * count)
    (positive : 0 < count) (inside : first + count ≤ values.length) : j.Covers b values.length first count := by
  have batched : b.size ≠ 0 := by
    intro zero
    rw [zero] at size
    exact absurd size (by simp; omega)
  rw [Covers, Machine.transferRange, Operands.copy, if_neg batched, offset, size, if_neg (by omega)]
  congr 2
  omega

/-- Bytes as a number of words. -/
theorem quarter {bytes : UInt64} (whole : bytes.toNat = 4 * count) : (bytes / 4).toNat = count := by
  rw [UInt64.toNat_div, whole]
  exact Nat.mul_div_cancel_left count (by decide)

/-- Slices that lie one behind the other up to the end of the array take it to its end. -/
theorem slices_reaches {slices : List Batch} (tiles : Tiles 4 limit first values.length slices)
    (stage : j.Stage (Kernel.onThreads j.change first 0 values) held s) (sound : s.device.events.Sound)
    (found : s.machine.cache.slots[j.operands.task.toNat]? = some slot) (reusable : j.Reusable slot)
    (room : limit ≤ held.length) (spelled : entries.map Entry.instruction = slices.flatMap j.operands.slice) :
    Op.Reaches (Machine.runPrefix false last entries) s fun _ t =>
      (∃ held', j.Stage (values.mapIdx j.change) held' t) ∧ t.device.events.Sound := by
  generalize stop : values.length = n at tiles
  induction tiles generalizing s held slot last entries with
  | nil n =>
    cases List.map_eq_nil_iff.1 spelled
    rw [← stop, Kernel.onThreads_all] at stage
    exact Op.reaches_pure ⟨⟨held, stage⟩, sound⟩
  | cons offset size positive fits tiles ih =>
    obtain ⟨here, others, rfl, spelledHere, spelledOthers⟩ := List.map_eq_append_iff.1 spelled
    have inside := stop ▸ tiles.first_le
    have batch := quarter size
    rw [runPrefix_append]
    refine Op.reaches_bind (slice_reaches stage sound found reusable
      (covers_of_tile offset size positive inside) (quarter offset) ?_ (Nat.le_refl _) inside
      (Nat.le_trans fits room) spelledHere)
      fun last t _ ⟨held', slot', code, stage, same, sound, found, built⟩ => ?_
    · rw [threadsOf?, batch, if_pos positive]
    · rw [batch] at built
      exact ih stage sound found (built.reusable (Nat.ne_of_gt positive)) (same ▸ room) spelledOthers stop

/-- One slice that stands for the whole array, on a grid that is large enough. -/
theorem whole_reaches (stage : j.Stage values held s) (sound : s.device.events.Sound)
    (found : s.machine.cache.slots[j.operands.task.toNat]? = some slot) (reusable : j.Reusable slot)
    {threads : Nat} (counted : j.task.grid.totalThreads? = some threads) (enough : values.length ≤ threads)
    (room : values.length ≤ held.length)
    (spelled : entries.map Entry.instruction = j.operands.slice ⟨0, 0, 0⟩) :
    Op.Reaches (Machine.runPrefix false last entries) s fun _ t =>
      (∃ held', j.Stage (values.mapIdx j.change) held' t) ∧ t.device.events.Sound := by
  have covers : j.Covers ⟨0, 0, 0⟩ values.length 0 values.length := rfl
  refine (slice_reaches ((Kernel.onThreads_none j.change values).symm ▸ stage) sound found reusable covers rfl counted
    enough (Nat.le_of_eq (Nat.zero_add _)) room spelled).weaken fun _ t ⟨held', _, _, stage, _, sound, _⟩ => ?_
  rw [Nat.zero_add, Kernel.onThreads_all] at stage
  exact ⟨⟨held', stage⟩, sound⟩

end Slices

end Job
end Offload
