import Offload.Proofs.Binaries

/-! Slots between the launches of a program that stores no batch numbers. A good binary of such a slot
fits the last launch of its task, so a compilation ends with the one binary that the launch calls for,
whichever binaries were there before; only its id depends on the past. -/
namespace Offload

/-- The launches of one task are all batched or all unbatched. -/
def Cursor.Uniform (program : Cursor) : Prop :=
  ∀ l l', program.Launches l → program.Launches l' → l.task = l'.task →
    (l.batchThreads = 0 ↔ l'.batchThreads = 0)

/-- The binary of a task that stores no batch number, for some number of threads. -/
def Device.plainBinary (d : Device) (id : CodeId) (task : Task) (threads : Nat) : Binary :=
  { id, kernel := task.kernel, epoch := d.epoch, batchThreads := threads }

/-- A slot that has counted no batch, with a binary for the last launch or with none. -/
structure CacheSlot.Ready (slot : CacheSlot) (d : Device) (program : Cursor) (index : Nat)
    (task : Task) : Prop where
  size : slot.batchSize = 0
  number : slot.batchNumber = 0
  built : ∀ code, slot.code = some code →
    d.checkTask task = .ok () ∧ code = d.plainBinary code.id task slot.batchThreads ∧
      ∃ l, program.Launches l ∧ l.task.toNat = index ∧ l.batchThreads.toNat = slot.batchThreads

/-- A session in a pass of the program, no task of which stores a batch number. -/
structure Session.Ready (program : Cursor) (s : Session) : Prop where
  same : s.machine.program = program
  epoch : s.device.epoch = s.machine.epoch
  plain : ∀ task ∈ s.context.tasks, task.writesLoopIndex = false
  sized : s.machine.cache.slots.length = s.context.tasks.length
  slots : ∀ index (slot : CacheSlot) task, s.machine.cache.slots[index]? = some slot →
    s.context.tasks[index]? = some task → slot.Ready s.device program index task

namespace CacheSlot

variable {slot : CacheSlot} {d d' : Device} {program : Cursor} {index : Nat} {task : Task} {l : Launch}

theorem ready_empty (d : Device) (program : Cursor) (index : Nat) (task : Task) :
    ({} : CacheSlot).Ready d program index task := by
  refine ⟨rfl, rfl, ?_⟩
  intro code found
  cases found

/-- Of a device only what compilations depend on matters. -/
theorem ready_later (ready : slot.Ready d program index task) (kept : Device.Keeps d d') :
    slot.Ready d' program index task := by
  have checks : d'.checkTask task = d.checkTask task := by
    simp only [Device.checkTask, kept.kernels, kept.failing, kept.info]
  have builds (id : CodeId) (threads : Nat) :
      d'.plainBinary id task threads = d.plainBinary id task threads := by
    simp only [Device.plainBinary, kept.epoch]
  refine ⟨ready.size, ready.number, ?_⟩
  intro code found
  rw [checks, builds]
  exact ready.built code found

/-- After the fit a binary that is left is one for this launch. -/
theorem ready_fit (uniform : program.Uniform) (launched : program.Launches l)
    (ready : slot.Ready d program l.task.toNat task) :
    (slot.fit l.batchThreads.toNat false).Ready d program l.task.toNat task := by
  refine ⟨?_, by rw [batchNumber_fit, ready.number], ?_⟩
  · unfold fit
    split <;> simp [setBatch, invalidate, ready.size]
  intro code kept
  rw [code_fit] at kept
  split at kept
  · cases kept
  next fits =>
    obtain ⟨checked, plain, l', launched', same, threads⟩ := ready.built code kept
    have unchanged : slot.batchThreads = l.batchThreads.toNat := by
      have zeros := uniform l' l launched' launched (UInt32.toNat_inj.1 same)
      simp only [recompilationNeeded, kept, Option.isSome_some, Bool.true_and, ready.number,
        Nat.lt_irrefl, decide_false, Bool.false_and, Bool.or_false, Bool.and_eq_true,
        decide_eq_true_eq, ne_eq, not_and, Decidable.not_not] at fits
      by_cases unbatched : slot.batchThreads = 0
      · rw [unbatched, ← UInt64.toNat_zero, UInt64.toNat_inj] at threads
        rw [unbatched, zeros.1 threads]
        rfl
      · exact fits unbatched
    rw [batchThreads_fit]
    rw [unchanged] at plain
    exact ⟨checked, plain, l, launched, rfl, rfl⟩

/-- A binary that was just built is one for this launch. -/
theorem ready_install (launched : program.Launches l) (checked : d.checkTask task = .ok ())
    (ready : slot.Ready d program l.task.toNat task)
    (threads : slot.batchThreads = l.batchThreads.toNat) (id : CodeId) :
    (slot.install (d.plainBinary id task l.batchThreads.toNat) false).Ready d program l.task.toNat
      task := by
  refine ⟨ready.size, ?_, ?_⟩
  · simp [install, ready.number]
  intro code found
  cases eq_of_code_install found
  rw [batchThreads_install, threads]
  exact ⟨checked, rfl, l, launched, rfl, rfl⟩

end CacheSlot

namespace Session

variable {s t : Session} {program : Cursor}

/-- A session goes on to be ready, as long as its slots do. -/
theorem Ready.on (ready : s.Ready program) (continues : Machine.Continues s t)
    (epoch : t.machine.epoch = s.machine.epoch)
    (sized : t.machine.cache.slots.length = s.machine.cache.slots.length)
    (slots : ∀ index (slot : CacheSlot) task, t.machine.cache.slots[index]? = some slot →
      s.context.tasks[index]? = some task → slot.Ready s.device program index task) :
    t.Ready program := by
  refine ⟨continues.program.trans ready.same, ?_, ?_, ?_, ?_⟩
  · rw [continues.device.epoch, epoch, ready.epoch]
  · rw [continues.tasks]
    exact ready.plain
  · rw [sized, continues.tasks, ready.sized]
  · intro index slot task found known
    rw [continues.tasks] at known
    exact CacheSlot.ready_later (slots index slot task found known) continues.device

theorem Ready.keeps (ready : s.Ready program) (kept : Keeps s t) : t.Ready program := by
  refine ready.on (Machine.continues_of_keeps s t kept) kept.frames.epoch ?_ ?_
  · rw [kept.frames.cache]
  · rw [kept.frames.cache]
    exact ready.slots

/-- One slot was replaced by a ready one. -/
theorem Ready.set {index : Nat} {slot : CacheSlot} (ready : s.Ready program)
    (continues : Machine.Continues s t) (epoch : t.machine.epoch = s.machine.epoch)
    (changed : t.machine.cache.slots = s.machine.cache.slots.set index slot)
    (fits : ∀ task, s.context.tasks[index]? = some task → slot.Ready s.device program index task) :
    t.Ready program := by
  refine ready.on continues epoch (by rw [changed, List.length_set]) ?_
  intro other slot' task found known
  rw [changed, List.getElem?_set] at found
  split at found
  · next same =>
    split at found <;> cases found
    subst same
    exact fits task known
  · exact ready.slots other slot' task found known

/-- A known task has a slot. -/
theorem Ready.slot {index : Nat} {task : Task} (ready : s.Ready program)
    (known : s.context.tasks[index]? = some task) :
    ∃ slot, s.machine.cache.slots[index]? = some slot ∧ slot.Ready s.device program index task := by
  have bound : index < s.machine.cache.slots.length := by
    rw [ready.sized]
    exact (List.getElem?_eq_some_iff.1 known).1
  have found := List.getElem?_eq_getElem bound
  exact ⟨_, found, ready.slots index _ task found known⟩

end Session

namespace Machine

variable {s t : Session} {program : Cursor} {l : Launch}

/-- What a compilation for a launch comes to, by the task and the device alone. -/
def verdict (c : Context) (d : Device) (l : Launch) : Except MachineError Unit :=
  match c.task l.task.toNat with
  | .error e => .error e
  | .ok task =>
    match d.checkTask task with
    | .error e => .error ((MachineError.ofDevice e).forTask task.id)
    | .ok () => .ok ()

/-- The binary of the launch is the one it calls for. -/
def Serves (s : Session) (l : Launch) : Prop :=
  ∃ task id, s.context.task l.task.toNat = .ok task ∧
    s.machine.cache.code l.task.toNat = some (s.device.plainBinary id task l.batchThreads.toNat)

private theorem serves_of_slot {slot : CacheSlot} {task : Task} {code : Binary}
    (known : s.context.task l.task.toNat = .ok task)
    (found : s.machine.cache.slots[l.task.toNat]? = some slot) (held : slot.code = some code)
    (ready : slot.Ready s.device program l.task.toNat task)
    (threads : slot.batchThreads = l.batchThreads.toNat) : Serves s l := by
  obtain ⟨_, plain, _⟩ := ready.built code held
  refine ⟨task, code.id, known, ?_⟩
  rw [CodeCache.code, CodeCache.slot_eq found, held, ← threads, ← plain]

/-- The binary that a ready slot calls for. -/
theorem slotBinary_plain {slot : CacheSlot} {index : Nat} {task : Task}
    (found : s.machine.cache.slots[index]? = some slot)
    (ready : slot.Ready s.device program index task) :
    slotBinary s index task = s.device.plainBinary s.device.nextCode task slot.batchThreads := by
  simp only [slotBinary, Device.binaryFor, requestOf, CodeCache.request, CodeCache.slot_eq found,
    ready.size, ready.number, Device.plainBinary]

/-- The fit of the slot to a launch leaves a session ready, with a slot for the batch of the launch. -/
theorem ready_prepared {task : Task} (uniform : program.Uniform) (launched : program.Launches l)
    (ready : s.Ready program) (known : s.context.task l.task.toNat = .ok task) :
    (prepared s l task).Ready program ∧
      ∃ slot, (prepared s l task).machine.cache.slots[l.task.toNat]? = some slot ∧
        slot.batchThreads = l.batchThreads.toNat := by
  have inTasks := task_ok_iff.1 known
  obtain ⟨slot, found, slotReady⟩ := ready.slot inTasks
  have fits := CacheSlot.ready_fit uniform launched slotReady
  have there := prepared_slot task found
  have fitted := prepared_slots task found
  rw [ready.plain task (List.mem_of_getElem? inTasks)] at there fitted
  refine ⟨ready.set (continues_machine rfl rfl) rfl fitted ?_, _, there, CacheSlot.batchThreads_fit⟩
  intro task' known'
  cases known'.symm.trans inTasks
  exact fits

/-- A build for a launch ends with the verdict. -/
theorem buildCode_ready {task : Task} {slot : CacheSlot} (launched : program.Launches l)
    (ready : s.Ready program) (known : s.context.task l.task.toNat = .ok task)
    (found : s.machine.cache.slots[l.task.toNat]? = some slot)
    (threads : slot.batchThreads = l.batchThreads.toNat) :
    (buildCode l.task.toNat task s).result = verdict s.context s.device l ∧
      (buildCode l.task.toNat task s).state.Ready program ∧
      ((buildCode l.task.toNat task s).result = .ok () →
        Serves (buildCode l.task.toNat task s).state l) := by
  have inTasks := task_ok_iff.1 known
  rcases buildCode_cases s l.task.toNat task with
    ⟨e, refused, failed, same⟩ | ⟨checked, built, after⟩
  · refine ⟨?_, ?_, ?_⟩
    · rw [failed, verdict, known]
      simp only [refused]
    · rw [same]
      exact ready
    · intro done
      rw [failed] at done
      cases done
  have slotReady := ready.slots _ _ task found inTasks
  have installed := CacheSlot.ready_install launched checked slotReady threads s.device.nextCode
  have continues : Continues s _ := moves_buildCode l.task.toNat task s
  rw [after] at continues
  have slots : (afterBuild s l.task.toNat task).machine.cache.slots =
      s.machine.cache.slots.set l.task.toNat (slot.install
        (s.device.plainBinary s.device.nextCode task l.batchThreads.toNat) false) := by
    show (s.machine.cache.install _ _ _).slots = _
    rw [CodeCache.install_slots _ found, slotBinary_plain found slotReady, threads,
      ready.plain task (List.mem_of_getElem? inTasks)]
  rw [built, after]
  refine ⟨?_, ?_, ?_⟩
  · rw [verdict, known]
    simp only [checked]
  · refine ready.set continues rfl slots ?_
    intro task' known'
    cases known'.symm.trans inTasks
    exact installed
  · intro _
    have found' := slots ▸ List.getElem?_set_self (List.getElem?_eq_some_iff.1 found).1
    exact serves_of_slot known found' (CacheSlot.code_install rfl)
      (CacheSlot.ready_later installed continues.device) threads

/-- However it was left by earlier launches, a compilation ends with the verdict, in a session that is
ready again and has the binary of the launch. -/
theorem fitCode_ready (uniform : program.Uniform) (launched : program.Launches l)
    (ready : s.Ready program) :
    (fitCode l s).result = verdict s.context s.device l ∧ (fitCode l s).state.Ready program ∧
      ((fitCode l s).result = .ok () → Serves (fitCode l s).state l) := by
  rcases fitCode_cases l s with ⟨e, unknown, result, same⟩ | ⟨task, known, outcome⟩
  · refine ⟨?_, ?_, ?_⟩
    · rw [result, verdict, unknown]
    · rw [same]
      exact ready
    · intro done
      rw [result] at done
      cases done
  obtain ⟨ready', slot, found, threads⟩ := ready_prepared uniform launched ready known
  rcases outcome with ⟨has, result, same⟩ | ⟨_, result, same⟩
  · -- A binary is left, so the device has built one for the task before.
    rw [← Bool.not_eq_true, CodeCache.needsCompile_iff, CodeCache.slot_eq found] at has
    obtain ⟨code, held⟩ := Option.ne_none_iff_exists'.1 has
    have slotReady := ready'.slots _ _ task found (task_ok_iff.1 known)
    have checked : s.device.checkTask task = .ok () := (slotReady.built code held).1
    rw [result, same]
    refine ⟨?_, ready', fun _ => serves_of_slot known found held slotReady threads⟩
    rw [verdict, known]
    simp only [checked]
  · rw [result, same]
    exact buildCode_ready launched ready' known found threads

end Machine
end Offload
