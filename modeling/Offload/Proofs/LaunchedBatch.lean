import Offload.Code.Assembly
import Offload.Kernel.Catalogue
import Offload.Proofs.Slots

/-! Which batch a launch runs. A slot rebuilds its binary when the threads differ from those of the
launch before, but a slot of an unbatched launch counts as fitting any batch. A batched launch then runs
the unbatched binary, over the threads of its grid. -/
namespace Offload

namespace Launch

/-- What the kernel is given for a launch. -/
def invocation (l : Launch) (code : Binary) (b : Machine.BoundLaunch) : Invocation :=
  .ofLaunch code b.frame b.atomics b.grid l.offset.toNat

end Launch

namespace Machine

variable {s t : Session} {l : Launch} {v : Invocation}

/-- A launch up to the call of its kernel: the binary, and what else the device is given. -/
def prepareLaunch (l : Launch) : MachineOp (Binary × BoundLaunch) := do
  compile l
  let code ← installedCode l
  let b ← bindLaunch l
  pure (code, b)

/-- What a launch gives to the device is what was prepared. -/
theorem launch_prepared (l : Launch) : (compile l >>= fun _ => dispatch l) =
    (prepareLaunch l >>= fun prepared => enqueue l prepared.1 prepared.2) := by
  simp only [prepareLaunch, dispatch, launchWith, Op.bind_assoc, Op.pure_bind]

/-- From this session on, the launch is compiled and bound, and its kernel is called with `v` if its
threads can be counted. -/
def Invokes (s : Session) (l : Launch) (v : Invocation) : Prop :=
  ∃ code b t kernel, Op.Yields (prepareLaunch l) s (code, b) t ∧
    t.device.kernelOf code = .ok kernel ∧ v = l.invocation code b

/-- The call of the kernel as a computation. -/
def invocation? (s : Session) (l : Launch) : Option Invocation := do
  let ((code, b), t) ← Op.success? (prepareLaunch l) s
  match t.device.kernelOf code with
  | .ok _ => some (l.invocation code b)
  | .error _ => none

theorem invokes_iff : Invokes s l v ↔ invocation? s l = some v := by
  simp only [Invokes, invocation?, Op.yields_iff_success?, bind, Option.bind_eq_some_iff, Prod.exists]
  refine exists_congr fun code => exists_congr fun b => exists_congr fun t => ?_
  rw [exists_and_left]
  refine and_congr_right fun _ => ?_
  rcases good : t.device.kernelOf code with e | kernel <;> simp [eq_comm]

/-- A launch that ends well has called its kernel. -/
theorem invokes_of_dispatch {event : EventId} (ran : Op.Yields (do compile l; dispatch l) s event t) :
    ∃ v, Invokes s l v := by
  simp only [dispatch, launchWith, Op.yields_bind] at ran
  obtain ⟨_, fit, compiled, code, looked, found, b, bound, binding, enqueued⟩ := ran
  simp only [enqueue, Op.yields_bind, Op.yields_attempt] at enqueued
  obtain ⟨launched, after, ⟨result, _⟩, _, _, _, rest⟩ := enqueued
  rcases launched with e | event'
  · simp at rest
  obtain ⟨device, launched, _⟩ := yields_onDevice.1 (show Op.Yields _ _ event' _ from ⟨result, rfl⟩)
  simp only [Device.launch, Op.yields_bind, Op.yields_get, Op.yields_ofExcept] at launched
  obtain ⟨_, _, ⟨rfl, rfl⟩, kernel, _, ⟨good, _⟩, _⟩ := launched
  refine ⟨l.invocation code b, code, b, bound, kernel, ?_, good, rfl⟩
  simp only [prepareLaunch, Op.yields_bind, Op.yields_pure]
  exact ⟨_, fit, compiled, code, looked, found, b, bound, binding, rfl, rfl⟩

/-! ### The binary and the slot -/

/-- A good binary was built for the threads that its slot has, or for an unbatched launch. -/
def SlotSound : SlotProperty := fun _ _ _ slot =>
  ∀ code, slot.code = some code →
    code.batchThreads = slot.batchThreads ∨ code.batchThreads = 0

private theorem slotSound_fit {slot : CacheSlot} {threads : Nat} {indexInWrite : Bool}
    (sound : ∀ code, slot.code = some code →
      code.batchThreads = slot.batchThreads ∨ code.batchThreads = 0) :
    ∀ code, (slot.fit threads indexInWrite).code = some code →
      code.batchThreads = threads ∨ code.batchThreads = 0 := by
  intro code kept
  rw [CacheSlot.code_fit] at kept
  split at kept
  · cases kept
  next fits =>
    rcases sound code kept with same | unbatched
    · by_cases zero : slot.batchThreads = 0
      · exact .inr (same.trans zero)
      · -- A slot that remembers another number of threads would have been rebuilt.
        by_cases other : slot.batchThreads = threads
        · exact .inl (same.trans other)
        · exact absurd (by simp [CacheSlot.recompilationNeeded, kept, zero, other]) fits
    · exact .inr unbatched

private theorem upheld_slotSound : Upheld SlotSound where
  fresh := by
    intro tasks program index code absent
    cases absent
  dropped := by
    intro tasks program index slot sound code absent
    cases absent
  invalidated := by
    intro tasks program index slot sound code absent
    rw [CacheSlot.code_invalidate] at absent
    cases absent
  fitted := by
    intro tasks program slot l task launched known sound code kept
    rw [CacheSlot.batchThreads_fit]
    exact slotSound_fit sound code kept
  installed := by
    intro tasks program slot l task code launched known sound threads number code' installed
    left
    rw [CacheSlot.eq_of_code_install installed, threads, CacheSlot.batchThreads_install,
      CacheSlot.batchThreads_fit]

/-! ### The batch that a launch runs -/

/-- The launch is batched, but its task has a good binary of an unbatched launch, and nothing calls for
another one. -/
def KeepsUnbatched (s : Session) (l : Launch) : Prop :=
  s.device.epoch = s.machine.epoch ∧ 0 < l.batchThreads.toNat ∧
    ∃ task slot code, s.context.task l.task.toNat = .ok task ∧
      s.machine.cache.slots[l.task.toNat]? = some slot ∧ slot.code = some code ∧
      code.batchThreads = 0 ∧
      slot.recompilationNeeded l.batchThreads.toNat task.writesLoopIndex = false

/-- The slot of the task decides. -/
theorem keepsUnbatched_iff {task : Task} {slot : CacheSlot}
    (known : s.context.task l.task.toNat = .ok task)
    (found : s.machine.cache.slots[l.task.toNat]? = some slot) :
    KeepsUnbatched s l ↔ s.device.epoch = s.machine.epoch ∧ 0 < l.batchThreads.toNat ∧
      ∃ code, slot.code = some code ∧ code.batchThreads = 0 ∧
        slot.recompilationNeeded l.batchThreads.toNat task.writesLoopIndex = false := by
  unfold KeepsUnbatched
  simp [known, found]

/-- Where the parts of a call come from. -/
theorem prepareLaunch_binds {code : Binary} {b : BoundLaunch}
    (ran : Op.Yields (prepareLaunch l) s (code, b) t) :
    ∃ fit task, Op.Yields (compile l) s () fit ∧ fit.context.task l.task.toNat = .ok task ∧
      fit.machine.cache.code l.task.toNat = some code ∧
      b.grid = launchGrid fit.machine.schedule task l.batchThreads.toNat := by
  simp only [prepareLaunch, installedCode, bindLaunch, Op.yields_bind, Op.yields_get,
    Op.yields_ofExcept, Op.yields_pure, Prod.mk.injEq] at ran
  obtain ⟨_, fit, compiled, _, _, ⟨_, _, ⟨rfl, rfl⟩, task, _, ⟨known, rfl⟩, found, rfl⟩, rest⟩ := ran
  obtain ⟨_, _, ⟨_, _, ⟨rfl, rfl⟩, task', _, ⟨known', rfl⟩, bound⟩, ⟨rfl, rfl⟩, _⟩ := rest
  obtain ⟨_, _, _, _, _, _, _, _, _, _, _, _, rfl, _⟩ := bound
  refine ⟨fit, task', compiled, known', ?_, rfl⟩
  rcases held : fit.machine.cache.code l.task.toNat with _ | held' <;> rw [held] at found <;>
    cases found
  rfl

/-- The binary and the grid of a launch. -/
theorem invoked_binary (sound : s.Slots SlotSound) (invoked : Invokes s l v) :
    (v.batchThreads = l.batchThreads.toNat ↔ ¬ KeepsUnbatched s l) ∧
      (KeepsUnbatched s l → v.batchThreads = 0) ∧
      ∃ task, s.context.task l.task.toNat = .ok task ∧
        v.grid = launchGrid s.machine.schedule task l.batchThreads.toNat := by
  obtain ⟨code, b, t, kernel, ran, _, rfl⟩ := invoked
  obtain ⟨fit, task, compiled, known, held, grid⟩ := prepareLaunch_binds ran
  obtain ⟨old, slot, task', found, rfl, known', outcome⟩ := compile_code compiled held
  have tasks := (continues_compile l s).tasks
  rw [compiled.2] at tasks
  rw [task_ok_iff, tasks, ← task_ok_iff, known'] at known
  cases known
  rw [keepsUnbatched_iff known' found]
  show (code.batchThreads = _ ↔ _) ∧ (_ → code.batchThreads = 0) ∧
    ∃ task, _ ∧ b.grid = launchGrid s.machine.schedule task _
  rw [← compile_schedule compiled]
  rcases outcome with ⟨good, fits, _⟩ | ⟨due, threads, _⟩
  · obtain ⟨current, same⟩ := noticedSlot_eq good
    rw [same] at good fits
    have kept : (old.fit l.batchThreads.toNat task.writesLoopIndex).code = some code := by
      rw [CacheSlot.code_fit, if_neg (by simp [fits]), good]
    have batch := slotSound_fit (sound l.task.toNat old found) code kept
    refine ⟨⟨?_, ?_⟩, ?_, task, known', grid⟩
    · rintro same ⟨_, batched, code, held', unbatched, _⟩
      rw [good] at held'
      cases held'
      omega
    · intro fresh
      rcases batch with same | unbatched
      · exact same
      by_cases batched : 0 < l.batchThreads.toNat
      · exact absurd ⟨current, batched, code, good, unbatched, fits⟩ fresh
      · omega
    · rintro ⟨_, _, code, held', unbatched, _⟩
      rw [good] at held'
      cases held'
      exact unbatched
  · have fresh : ¬ (s.device.epoch = s.machine.epoch ∧ 0 < l.batchThreads.toNat ∧
        ∃ code, old.code = some code ∧ code.batchThreads = 0 ∧
          old.recompilationNeeded l.batchThreads.toNat task.writesLoopIndex = false) := by
      rintro ⟨current, _, code, good, _, fits⟩
      rw [noticedSlot, if_pos current, CacheSlot.code_fit, if_neg (by simp [fits]), good] at due
      cases due
    exact ⟨⟨fun _ => fresh, fun _ => threads⟩, fun keeps => absurd keeps fresh, task, known', grid⟩

end Machine

namespace Workspace

variable {w : Workspace} {seat index : Nat} {s : Session} {l : Launch} {v : Invocation}

/-- In every history a launch runs the batch it names, unless it keeps an unbatched binary; then it runs
the threads of its grid, resized to the batch. -/
theorem launched_threads (reachable : w.Reachable) (present : w.session? seat = some (index, s))
    (invoked : Machine.Invokes s l v) :
    (v.batchThreads = l.batchThreads.toNat ↔ ¬ Machine.KeepsUnbatched s l) ∧
      ∃ task grid, s.context.task l.task.toNat = .ok task ∧
        grid = s.machine.schedule.resolve task.id task.grid ∧
        (¬ Machine.KeepsUnbatched s l → v.threads =
          if 0 < l.batchThreads.toNat then .ok l.batchThreads.toNat else grid.counted) ∧
        (Machine.KeepsUnbatched s l → v.threads = (grid.withThreads l.batchThreads.toNat).counted) := by
  have sound := slots_of_reachable Machine.upheld_slotSound reachable present
  obtain ⟨batch, unbatched, task, known, grid⟩ := Machine.invoked_binary sound invoked
  refine ⟨batch, task, _, known, rfl, ?_, ?_⟩
  · intro fresh
    rw [Invocation.threads, batch.2 fresh, grid]
    by_cases batched : 0 < l.batchThreads.toNat
    · rw [if_pos batched, if_pos batched]
    · rw [if_neg batched, if_neg batched, Machine.launchGrid, if_neg batched]
  · intro keeps
    have batched : 0 < l.batchThreads.toNat := keeps.2.1
    rw [Invocation.threads, unbatched keeps, grid, if_neg (Nat.lt_irrefl 0), Machine.launchGrid,
      if_pos batched]

/-- A launch of task 0 without arguments. -/
def launchOf (batchThreads : UInt64) : Launch :=
  { wrapper := 0, task := 0, list := none, offset := 0, batchThreads, args := [] }

/-- A machine in the middle of a pass: its task of 8 threads was launched without a batch, and the next
launch names a batch of 5. -/
def unbatchedFirst : Workspace :=
  let program := Assembly.bytes
    { instructions := [.context 0, .beginPass, .launch (launchOf 0), .launch (launchOf 5), .endPass] }
  let task : Task := { id := "t", kernel := "noop", grid := { blocks := { x := 2 }, lanes := { x := 4 } } }
  let start : Workspace :=
    { context := { name := "unbatched first", tasks := [task] }
      devices := [Device.registerKernel {} "noop" fun _ => .done ()] }
  let built := (start.build 0 program { useDependencies := false }).state
  let begun := (built.onMachine 0 MachineCommand.startPass.run).state
  (begun.onMachine 0 (MachineCommand.perform false none 0).run).state

private theorem unbatchedFirst_reachable : unbatchedFirst.Reachable := by
  refine .step ?_ (.machine _ 0 (.perform false none 0))
  refine .step ?_ (.machine _ 0 .startPass)
  refine .step ?_ (.build _ 0 _ _)
  exact .start _ _ rfl

private theorem unbatchedFirst_invokes : ∃ s v, unbatchedFirst.session? 0 = some (0, s) ∧
    Machine.Invokes s (launchOf 5) v ∧ v.batchThreads = 0 ∧ v.threads = .ok 8 := by
  have ran : (unbatchedFirst.session? 0).bind (fun seated =>
      (Machine.invocation? seated.2 (launchOf 5)).map fun v =>
        (seated.1, v.batchThreads, v.threads.toOption)) = some (0, 0, some 8) := by decide +kernel
  obtain ⟨⟨index, s⟩, present, called⟩ := Option.bind_eq_some_iff.1 ran
  obtain ⟨v, invoked, same⟩ := Option.map_eq_some_iff.1 called
  simp only [Prod.mk.injEq] at same
  obtain ⟨rfl, batch, threads⟩ := same
  refine ⟨s, v, present, Machine.invokes_iff.2 invoked, batch, ?_⟩
  rcases counted : v.threads with e | count <;> rw [counted] at threads <;> cases threads
  rfl

/-- The launch of 5 threads keeps the binary of the launch before, and runs 8. -/
theorem unbatchedFirst_keeps : ∃ s v, unbatchedFirst.session? 0 = some (0, s) ∧
    Machine.Invokes s (launchOf 5) v ∧ Machine.KeepsUnbatched s (launchOf 5) ∧ v.threads = .ok 8 := by
  obtain ⟨s, v, present, invoked, batch, threads⟩ := unbatchedFirst_invokes
  have exact := launched_threads unbatchedFirst_reachable present invoked
  have keeps : Machine.KeepsUnbatched s (launchOf 5) := by
    refine Classical.byContradiction fun fresh => ?_
    have same := exact.1.2 fresh
    rw [batch] at same
    cases same
  exact ⟨s, v, present, invoked, keeps, threads⟩

/-- So not every launch runs the threads that it names. -/
theorem batch_not_always_run : ¬ ∀ (w : Workspace) (seat index : Nat) (s : Session) (l : Launch)
    (v : Invocation), w.Reachable → w.session? seat = some (index, s) → Machine.Invokes s l v →
      0 < l.batchThreads.toNat → v.threads = .ok l.batchThreads.toNat := by
  intro claim
  obtain ⟨s, v, present, invoked, _, threads⟩ := unbatchedFirst_invokes
  have same := claim _ _ _ _ _ _ unbatchedFirst_reachable present invoked (by decide)
  rw [threads] at same
  exact absurd (Except.ok.inj same) (by decide)

end Workspace
end Offload
