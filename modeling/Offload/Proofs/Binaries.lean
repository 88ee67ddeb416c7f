import Offload.Proofs.Alike

/-! Compilations. A launch fits the slot of its task to its batch and builds a binary when the slot has
none left; the binary remembers the threads and the number that the slot had at that moment. -/
namespace Offload

namespace CacheSlot

variable {slot : CacheSlot} {threads : Nat} {indexInWrite : Bool} {code : Binary}

/-- The slot as a launch leaves it before it builds anything. -/
def fit (slot : CacheSlot) (threads : Nat) (indexInWrite : Bool) : CacheSlot :=
  if slot.recompilationNeeded threads indexInWrite then slot.invalidate.setBatch threads indexInWrite
  else slot.setBatch threads indexInWrite

@[simp] theorem code_invalidate (slot : CacheSlot) : slot.invalidate.code = none := by
  unfold code invalidate
  rcases slot.binary with _ | b <;> simp [Binary.invalidate, Option.filter]

@[simp] theorem code_setBatch : (slot.setBatch threads indexInWrite).code = slot.code := rfl

/-- Code that is valid can be had as soon as it is installed. -/
theorem code_install (valid : code.valid = true) : (slot.install code indexInWrite).code = some code := by
  simp [CacheSlot.code, install, Option.filter, valid]

/-- Nothing but the installed code can be had from its slot. -/
theorem eq_of_code_install {code' : Binary} (found : (slot.install code indexInWrite).code = some code') :
    code' = code := by
  have only := Option.eq_some_of_filter_eq_some found
  exact (Option.some.inj only).symm

@[simp] theorem batchThreads_install :
    (slot.install code indexInWrite).batchThreads = slot.batchThreads := rfl

/-- A binary survives a fit unless a rebuild is due. -/
theorem code_fit : (slot.fit threads indexInWrite).code =
    if slot.recompilationNeeded threads indexInWrite then none else slot.code := by
  unfold fit
  split <;> simp

@[simp] theorem batchThreads_fit : (slot.fit threads indexInWrite).batchThreads = threads := by
  unfold fit
  split <;> rfl

@[simp] theorem batchNumber_fit :
    (slot.fit threads indexInWrite).batchNumber = slot.batchNumber := by
  unfold fit
  split <;> rfl

end CacheSlot

namespace CodeCache

variable {c : CodeCache} {slot : CacheSlot} {index threads : Nat} {indexInWrite : Bool}

theorem slot_eq (found : c.slots[index]? = some slot) : c.slot index = slot := by
  rw [CodeCache.slot, found]
  rfl

/-- To prepare a launch is to fit its slot to the batch; the other slots stay. -/
theorem prepare_slots (found : c.slots[index]? = some slot) :
    (c.prepare index threads indexInWrite).2.slots =
      c.slots.set index (slot.fit threads indexInWrite) := by
  simp only [prepare, found, CacheSlot.fit]
  split <;> rfl

/-- A task without a slot is not prepared for. -/
theorem prepare_absent (absent : c.slots[index]? = none) :
    (c.prepare index threads indexInWrite).2 = c := by
  simp only [prepare, absent]

/-- Code has to be built exactly where the slot has none that is valid. -/
theorem needsCompile_iff : c.needsCompile index = true ↔ (c.slot index).code = none := by
  simp [needsCompile, CacheSlot.needsCompile, Option.isNone_iff_eq_none]

/-- Code is installed in one slot; the others stay. -/
theorem install_slots (binary : Binary) (found : c.slots[index]? = some slot) :
    (c.install index binary indexInWrite).slots =
      c.slots.set index (slot.install binary indexInWrite) := by
  unfold install
  refine List.ext_getElem? fun other => ?_
  rw [List.getElem?_modify, List.getElem?_set]
  by_cases same : index = other
  · subst same
    rw [if_pos rfl, if_pos (List.getElem?_eq_some_iff.1 found).1, found]
    exact congrArg some (if_pos rfl)
  · simp [same]

/-- A task without a slot has nothing installed. -/
theorem install_absent (binary : Binary) (absent : c.slots[index]? = none) :
    (c.install index binary indexInWrite).slots = c.slots := by
  unfold install
  exact List.modify_eq_self (List.getElem?_eq_none_iff.1 absent)

/-- A forced recompilation invalidates one slot at most. -/
theorem forceRecompile_slots (c : CodeCache) (index : Nat) :
    (c.forceRecompile index).slots = c.slots ∨
      ∃ slot, c.slots[index]? = some slot ∧
        (c.forceRecompile index).slots = c.slots.set index slot.invalidate := by
  unfold forceRecompile
  rcases found : c.slots[index]? with _ | slot
  · exact .inl rfl
  · dsimp only
    by_cases compiled : slot.code.isSome
    · rw [if_pos compiled]
      exact .inr ⟨slot, rfl, rfl⟩
    · rw [if_neg compiled]
      exact .inl rfl

/-! ### The epoch of the binaries -/

variable {epoch : Nat}

/-- All binaries were built in one epoch. -/
def Dated (c : CodeCache) (epoch : Nat) : Prop :=
  ∀ slot ∈ c.slots, ∀ code, slot.binary = some code → code.epoch = epoch

/-- One slot is replaced by another whose binary is of the epoch too. -/
theorem dated_set (dated : c.Dated epoch) {c' : CodeCache} {new : CacheSlot}
    (slots : c'.slots = c.slots.set index new) (same : ∀ code, new.binary = some code → code.epoch = epoch) :
    c'.Dated epoch := by
  intro slot member
  rw [slots] at member
  rcases List.mem_or_eq_of_mem_set member with kept | rfl
  · exact dated slot kept
  · exact same

/-- The binary that a task has is good, and of that epoch. -/
theorem dated_code (dated : c.Dated epoch) {code : Binary} (held : c.code index = some code) :
    code.valid = true ∧ code.epoch = epoch := by
  obtain ⟨kept, valid⟩ := Option.filter_eq_some_iff.1 held
  rw [CodeCache.slot] at kept
  rcases found : c.slots[index]? with _ | slot <;> rw [found] at kept
  · cases kept
  · exact ⟨valid, dated slot (List.mem_of_getElem? found) code kept⟩

private theorem dated_invalidate (dated : ∀ code, slot.binary = some code → code.epoch = epoch) :
    ∀ code, slot.invalidate.binary = some code → code.epoch = epoch := by
  intro code found
  obtain ⟨old, held, rfl⟩ := Option.map_eq_some_iff.1 found
  exact dated old held

/-- Preparing a launch brings in no code of another epoch. -/
theorem dated_prepare (dated : c.Dated epoch) (index threads : Nat) (indexInWrite : Bool) :
    (c.prepare index threads indexInWrite).2.Dated epoch := by
  rcases held : c.slots[index]? with _ | old
  · rw [prepare_absent held]
    exact dated
  · have earlier := dated old (List.mem_of_getElem? held)
    refine dated_set dated (prepare_slots held) ?_
    unfold CacheSlot.fit
    split
    · exact dated_invalidate earlier
    · exact earlier

/-- Code of the epoch may be installed. -/
theorem dated_install (dated : c.Dated epoch) (index : Nat) {code : Binary} (indexInWrite : Bool)
    (current : code.epoch = epoch) : (c.install index code indexInWrite).Dated epoch := by
  rcases held : c.slots[index]? with _ | old
  · intro slot member
    rw [install_absent _ held] at member
    exact dated slot member
  · refine dated_set dated (install_slots code held) ?_
    rintro _ ⟨⟩
    exact current

/-- Invalid code is of no epoch. -/
theorem dated_forceRecompile (dated : c.Dated epoch) (index : Nat) : (c.forceRecompile index).Dated epoch := by
  rcases forceRecompile_slots c index with same | ⟨old, held, forced⟩
  · intro slot member
    rw [same] at member
    exact dated slot member
  · exact dated_set dated forced (dated_invalidate (dated old (List.mem_of_getElem? held)))

end CodeCache

namespace Device

/-- The binary that a device builds for a request. -/
def binaryFor (d : Device) (request : CompileRequest) : Binary :=
  { id := d.nextCode
    kernel := request.task.kernel
    epoch := d.epoch
    batchThreads := request.batchThreads
    batchSize := request.batchSize
    batchNumber := request.batchNumber }

/-- A device that has built a binary for a request. -/
def afterInstall (d : Device) (request : CompileRequest) : Device :=
  { d with
    nextCode := d.nextCode + 1
    compileLog := d.compileLog ++
      [⟨request.task.kernel, request.taskIndex, request.batchThreads, request.batchSize,
        request.batchNumber, request.grid, request.force⟩]
    counters.compilations := d.counters.compilations + 1 }

/-- A device refuses a task and stays as it is, or it builds a binary. -/
theorem installCode_cases (d : Device) (request : CompileRequest) :
    (∃ e, d.checkTask request.task = .error e ∧ (installCode request d).result = .error e ∧
        (installCode request d).state = d) ∨
      d.checkTask request.task = .ok () ∧
        Op.Yields (installCode request) d (d.binaryFor request) (d.afterInstall request) := by
  rcases checked : d.checkTask request.task with e | ⟨⟩
  · refine .inl ⟨e, rfl, ?_⟩
    unfold installCode
    rw [Op.get_bind, checked]
    exact ⟨rfl, rfl⟩
  · refine .inr ⟨rfl, ?_⟩
    unfold installCode
    refine Op.yields_bind.2 ⟨d, d, Op.yields_get.2 ⟨rfl, rfl⟩, ?_⟩
    exact Op.yields_bind.2 ⟨(), d, Op.yields_ofExcept.2 ⟨checked, rfl⟩, rfl, rfl⟩

end Device

namespace Machine

variable {s t : Session} {l : Launch} {task : Task} {index : Nat}

/-- The compilation that a launch of a task calls for. -/
def requestOf (s : Session) (index : Nat) (task : Task) : CompileRequest :=
  s.machine.cache.request index task (s.machine.schedule.get? task.id)

/-- The binary that a slot calls for. -/
def slotBinary (s : Session) (index : Nat) (task : Task) : Binary :=
  s.device.binaryFor (requestOf s index task)

/-- A session with a new binary in the slot of a task. -/
def afterBuild (s : Session) (index : Nat) (task : Task) : Session :=
  { s with
    device := s.device.afterInstall (requestOf s index task)
    machine.profiler := s.machine.profiler.addTimer .compile 0
    machine.cache := s.machine.cache.install index (slotBinary s index task) task.writesLoopIndex
    machine.stats.compilations := s.machine.stats.compilations + 1 }

/-- A build fails and changes nothing when the device refuses the task; otherwise it puts a new binary
into the slot. -/
theorem buildCode_cases (s : Session) (index : Nat) (task : Task) :
    (∃ e, s.device.checkTask task = .error e ∧
        (buildCode index task s).result = .error ((MachineError.ofDevice e).forTask task.id) ∧
        (buildCode index task s).state = s) ∨
      s.device.checkTask task = .ok () ∧
        Op.Yields (buildCode index task) s () (afterBuild s index task) := by
  rcases Device.installCode_cases s.device (requestOf s index task) with
    ⟨e, checked, result, state⟩ | ⟨checked, result, state⟩
  · refine .inl ⟨e, checked, ?_⟩
    rcases ran : Device.installCode (requestOf s index task) s.device with ⟨r, device, log⟩
    rw [ran] at result state
    cases result
    cases state
    have failed : Op.attempt (Session.onDevice (Device.installCode (requestOf s index task))) s =
        (⟨.ok (.error (MachineError.ofDevice e)), s, log⟩ :
          Outcome MachineError Session (Except MachineError Binary)) := by
      simp only [Op.attempt, Session.onDevice, Op.onPart, Op.mapError, ran]
    unfold buildCode
    rw [Op.get_bind]
    dsimp only
    rw [show s.machine.cache.request index task (s.machine.schedule.get? task.id) =
      requestOf s index task from rfl, Op.bind_ok failed]
    exact ⟨rfl, rfl⟩
  · refine .inr ⟨checked, ?_⟩
    have built : Op.Yields (Session.onDevice (Device.installCode (requestOf s index task))) s
        (slotBinary s index task)
        { s with device := s.device.afterInstall (requestOf s index task) } :=
      yields_onDevice.2 ⟨_, ⟨result, state⟩, rfl⟩
    simp only [buildCode, Op.yields_bind, Op.yields_get]
    refine ⟨s, s, ⟨rfl, rfl⟩, .ok _, _, Op.yields_attempt.2 built, ?_⟩
    exact ⟨(), _, ⟨rfl, rfl⟩, rfl, rfl⟩

/-- A session whose slot was fitted to the batch of a launch. -/
def prepared (s : Session) (l : Launch) (task : Task) : Session :=
  { s with
    machine.cache :=
      (s.machine.cache.prepare l.task.toNat l.batchThreads.toNat task.writesLoopIndex).2 }

/-- A fit fails for an unknown task; for a known one the slot is prepared, and then built if need be. -/
theorem fitCode_cases (l : Launch) (s : Session) :
    (∃ e, s.context.task l.task.toNat = .error e ∧ (fitCode l s).result = .error e ∧
        (fitCode l s).state = s) ∨
      ∃ task, s.context.task l.task.toNat = .ok task ∧
        ((prepared s l task).machine.cache.needsCompile l.task.toNat = false ∧
            Op.Yields (fitCode l) s () (prepared s l task) ∨
          (prepared s l task).machine.cache.needsCompile l.task.toNat = true ∧
            (fitCode l s).result = (buildCode l.task.toNat task (prepared s l task)).result ∧
            (fitCode l s).state = (buildCode l.task.toNat task (prepared s l task)).state) := by
  rcases known : s.context.task l.task.toNat with e | task
  · refine .inl ⟨e, rfl, ?_⟩
    unfold fitCode
    rw [Op.get_bind]
    dsimp only
    rw [known]
    exact ⟨rfl, rfl⟩
  refine .inr ⟨task, rfl, ?_⟩
  have opened : (fitCode l s).result = ((if (prepared s l task).machine.cache.needsCompile l.task.toNat
        then buildCode l.task.toNat task else pure () : MachineOp Unit) (prepared s l task)).result ∧
      (fitCode l s).state = ((if (prepared s l task).machine.cache.needsCompile l.task.toNat
        then buildCode l.task.toNat task else pure () : MachineOp Unit) (prepared s l task)).state := by
    unfold fitCode
    rw [Op.get_bind]
    dsimp only
    rw [known, Op.bind_ok (show Op.ofExcept (.ok task) s = ⟨.ok task, s, []⟩ from rfl),
      Op.bind_ok (show Session.modifyMachine _ s = ⟨.ok (), prepared s l task, []⟩ from rfl)]
    split <;> exact ⟨rfl, rfl⟩
  by_cases due : (prepared s l task).machine.cache.needsCompile l.task.toNat
  · rw [if_pos due] at opened
    exact .inr ⟨due, opened⟩
  · rw [if_neg due] at opened
    exact .inl ⟨by simpa using due, opened⟩

theorem task_ok_iff {c : Context} : c.task index = .ok task ↔ c.tasks[index]? = some task := by
  unfold Context.task
  rcases c.tasks[index]? with _ | known <;> simp

/-- The binary of a slot is requested with the batch of the slot. -/
theorem slotBinary_fields (task : Task) {slot : CacheSlot}
    (found : s.machine.cache.slots[index]? = some slot) :
    (slotBinary s index task).batchThreads = slot.batchThreads ∧
      (slotBinary s index task).batchNumber = slot.batchNumber := by
  have same := CodeCache.slot_eq found
  exact ⟨congrArg CacheSlot.batchThreads same, congrArg CacheSlot.batchNumber same⟩

/-- Code that is built is installed; a build that fails leaves the session alone. -/
theorem buildCode_slots (task : Task) {slot : CacheSlot}
    (found : s.machine.cache.slots[index]? = some slot) :
    (∃ e, (buildCode index task s).result = .error e ∧ (buildCode index task s).state = s) ∨
      (buildCode index task s).result = .ok () ∧
        (buildCode index task s).state.machine.cache.slots = s.machine.cache.slots.set index
          (slot.install (slotBinary s index task) task.writesLoopIndex) := by
  rcases buildCode_cases s index task with ⟨e, _, failed, same⟩ | ⟨_, result, state⟩
  · exact .inl ⟨_, failed, same⟩
  · refine .inr ⟨result, ?_⟩
    rw [state]
    exact CodeCache.install_slots _ found

/-- In a prepared session the slot of the task fits the batch of the launch. -/
theorem prepared_slots (task : Task) {slot : CacheSlot}
    (found : s.machine.cache.slots[l.task.toNat]? = some slot) :
    (prepared s l task).machine.cache.slots = s.machine.cache.slots.set l.task.toNat
      (slot.fit l.batchThreads.toNat task.writesLoopIndex) :=
  CodeCache.prepare_slots found

theorem prepared_slot (task : Task) {slot : CacheSlot}
    (found : s.machine.cache.slots[l.task.toNat]? = some slot) :
    (prepared s l task).machine.cache.slots[l.task.toNat]? =
      some (slot.fit l.batchThreads.toNat task.writesLoopIndex) := by
  rw [prepared_slots task found]
  exact List.getElem?_set_self (List.getElem?_eq_some_iff.1 found).1

/-- Without a slot neither the fit nor the build leaves a trace in the cache. -/
theorem fitCode_absent (absent : s.machine.cache.slots[l.task.toNat]? = none) :
    (fitCode l s).state.machine.cache.slots = s.machine.cache.slots := by
  rcases fitCode_cases l s with ⟨e, _, _, same⟩ | ⟨task, known, outcome⟩
  · rw [same]
  have untouched : (prepared s l task).machine.cache = s.machine.cache :=
    CodeCache.prepare_absent absent
  rcases outcome with ⟨_, _, same⟩ | ⟨_, _, same⟩
  · rw [same, untouched]
  rw [same]
  rcases buildCode_cases (prepared s l task) l.task.toNat task with
    ⟨e, _, _, kept⟩ | ⟨_, _, built⟩
  · rw [kept, untouched]
  · rw [built]
    show ((prepared s l task).machine.cache.install _ _ _).slots = _
    rw [untouched, CodeCache.install_absent _ absent]

/-- The slots of other tasks are left alone. -/
theorem fitCode_other {other : Nat} (different : l.task.toNat ≠ other) :
    (fitCode l s).state.machine.cache.slots[other]? = s.machine.cache.slots[other]? := by
  rcases found : s.machine.cache.slots[l.task.toNat]? with _ | slot
  · rw [fitCode_absent found]
  rcases fitCode_cases l s with ⟨e, _, _, same⟩ | ⟨task, known, outcome⟩
  · rw [same]
  have ready := prepared_slot task found
  have fitted := prepared_slots task found
  rcases outcome with ⟨_, _, same⟩ | ⟨_, _, same⟩
  · rw [same, fitted, List.getElem?_set_ne different]
  rw [same]
  rcases buildCode_slots task ready with ⟨e, _, kept⟩ | ⟨_, built⟩
  · rw [kept, fitted, List.getElem?_set_ne different]
  · rw [built, List.getElem?_set_ne different, fitted, List.getElem?_set_ne different]

private theorem alike_buildCode (index : Nat) (task : Task) :
    Op.Moves (buildCode index task) Session.Alike := by
  intro s
  rcases buildCode_cases s index task with ⟨e, _, _, same⟩ | ⟨_, _, built⟩
  · rw [same]
    exact Op.Transition.refl s
  · rw [built]
    exact ⟨rfl, Profiler.alike_addCompile _ _⟩

/-- A fit is about binaries only. -/
theorem alike_fitCode (l : Launch) : Op.Moves (fitCode l) Session.Alike := by
  intro s
  have untouched (task : Task) : Session.Alike s (prepared s l task) :=
    ⟨rfl, Op.Transition.refl _⟩
  rcases fitCode_cases l s with ⟨e, _, _, same⟩ | ⟨task, _, ⟨_, _, same⟩ | ⟨_, _, same⟩⟩
  · rw [same]
    exact Op.Transition.refl s
  · rw [same]
    exact untouched task
  · rw [same]
    exact Op.Transition.trans (untouched task) (alike_buildCode _ _ _)

private theorem fitCode_schedule (l : Launch) (s : Session) :
    (fitCode l s).state.machine.schedule = s.machine.schedule :=
  (Session.alike_view (fun s => s.machine.schedule) (fun _ => rfl) (alike_fitCode l s)).symm

/-- What a successful fit does to the slot: the binary stays, or a new one is built from what the slot
says by then. -/
theorem fitCode_slot {slot : CacheSlot} {u : Unit}
    (found : s.machine.cache.slots[l.task.toNat]? = some slot) (ran : Op.Yields (fitCode l) s u t) :
    ∃ task fitted, s.context.task l.task.toNat = .ok task ∧
      fitted = slot.fit l.batchThreads.toNat task.writesLoopIndex ∧
      (fitted.code.isSome = true ∧ t.machine.cache.slots[l.task.toNat]? = some fitted ∨
        fitted.code = none ∧ ∃ code : Binary, code.valid = true ∧
          code.batchThreads = l.batchThreads.toNat ∧ code.batchNumber = slot.batchNumber ∧
          t.machine.cache.slots[l.task.toNat]? = some (fitted.install code task.writesLoopIndex)) := by
  obtain ⟨result, rfl⟩ := ran
  rcases fitCode_cases l s with ⟨e, _, failed, _⟩ | ⟨task, known, outcome⟩
  · rw [failed] at result
    cases result
  have ready := prepared_slot task found
  refine ⟨task, _, known, rfl, ?_⟩
  rcases outcome with ⟨fits, _, same⟩ | ⟨due, resultBuild, stateBuild⟩
  · left
    rw [← Bool.not_eq_true, CodeCache.needsCompile_iff, CodeCache.slot_eq ready] at fits
    rw [same]
    exact ⟨Option.isSome_iff_ne_none.2 fits, ready⟩
  · right
    rw [CodeCache.needsCompile_iff, CodeCache.slot_eq ready] at due
    rw [resultBuild] at result
    rcases buildCode_slots task ready with ⟨e, failed, _⟩ | ⟨_, slots⟩
    · rw [failed] at result
      cases result
    obtain ⟨threads, number⟩ := slotBinary_fields task ready
    refine ⟨due, _, rfl, threads.trans CacheSlot.batchThreads_fit,
      number.trans CacheSlot.batchNumber_fit, ?_⟩
    rw [stateBuild, slots]
    exact List.getElem?_set_self (List.getElem?_eq_some_iff.1 ready).1

/-- The binary that a launch finds after the fit of its slot: the one that was there, when it fits, or
one that was built for the launch. -/
theorem fitCode_code {code : Binary} {u : Unit} (ran : Op.Yields (fitCode l) s u t)
    (held : t.machine.cache.code l.task.toNat = some code) :
    ∃ slot task, s.machine.cache.slots[l.task.toNat]? = some slot ∧
      s.context.task l.task.toNat = .ok task ∧
      (slot.code = some code ∧
          slot.recompilationNeeded l.batchThreads.toNat task.writesLoopIndex = false ∧
          t.machine.cache.slots[l.task.toNat]? =
            some (slot.fit l.batchThreads.toNat task.writesLoopIndex) ∨
        (slot.fit l.batchThreads.toNat task.writesLoopIndex).code = none ∧
          code.batchThreads = l.batchThreads.toNat ∧ code.batchNumber = slot.batchNumber ∧
          t.machine.cache.slots[l.task.toNat]? =
            some ((slot.fit l.batchThreads.toNat task.writesLoopIndex).install code
              task.writesLoopIndex)) := by
  rcases found : s.machine.cache.slots[l.task.toNat]? with _ | slot
  · have slots := fitCode_absent found
    rw [ran.2] at slots
    rw [CodeCache.code, CodeCache.slot, slots, found] at held
    cases held
  obtain ⟨task, fitted, known, rfl, ⟨good, after⟩ | ⟨none, code', valid, threads, number, after⟩⟩ :=
    fitCode_slot found ran
  · rw [CodeCache.code, CodeCache.slot_eq after, CacheSlot.code_fit] at held
    split at held
    · cases held
    next fits => exact ⟨slot, task, rfl, known, .inl ⟨held, by simpa using fits, after⟩⟩
  · rw [CodeCache.code, CodeCache.slot_eq after] at held
    cases CacheSlot.eq_of_code_install held
    exact ⟨slot, task, rfl, known, .inr ⟨none, threads, number, after⟩⟩

/-! ### Compilations -/

/-- Up to date with its device, a machine has nothing to notice. -/
theorem compile_current (current : s.device.epoch = s.machine.epoch) :
    compile l s = fitCode l s := by
  have synced : syncEpoch s = ⟨.ok (), s, []⟩ := by
    unfold syncEpoch
    rw [Op.get_bind, if_pos current]
    rfl
  unfold compile
  rw [Op.bind_ok synced]
  rfl

/-- A compilation fails because of a reset that it may not notice, or it is a fit, after the notice of a
reset if there was one. -/
theorem compile_state (l : Launch) (s : Session) :
    (s.device.epoch ≠ s.machine.epoch ∧ s.machine.finishedWarmup = true ∧ (compile l s).state = s) ∨
      (s.device.epoch ≠ s.machine.epoch ∧ s.machine.finishedWarmup = false ∧
          (compile l s).state = (fitCode l (afterNotice s)).state) ∨
        (s.device.epoch = s.machine.epoch ∧ (compile l s).state = (fitCode l s).state) := by
  by_cases current : s.device.epoch = s.machine.epoch
  · rw [compile_current current]
    exact .inr (.inr ⟨current, rfl⟩)
  · rcases finished : s.machine.finishedWarmup with _ | _
    · exact .inr (.inl ⟨current, rfl, (Op.bind_of_yields (syncEpoch_notice current finished)).2⟩)
    · obtain ⟨failed, state⟩ := syncEpoch_fatal current finished
      exact .inl ⟨current, rfl, (Op.bind_of_failed failed).2.trans state⟩

/-- A slot as the notice of a reset leaves it. -/
def noticedSlot (s : Session) (slot : CacheSlot) : CacheSlot :=
  if s.device.epoch = s.machine.epoch then slot else { slot with binary := none }

/-- A slot that still has a binary was not touched by a notice. -/
theorem noticedSlot_eq {slot : CacheSlot} {code : Binary}
    (held : (noticedSlot s slot).code = some code) :
    s.device.epoch = s.machine.epoch ∧ noticedSlot s slot = slot := by
  by_cases current : s.device.epoch = s.machine.epoch
  · exact ⟨current, if_pos current⟩
  · rw [noticedSlot, if_neg current] at held
    cases held

/-- The binary that a launch finds after its compilation. -/
theorem compile_code {code : Binary} {u : Unit} (ran : Op.Yields (compile l) s u t)
    (held : t.machine.cache.code l.task.toNat = some code) :
    ∃ old slot task, s.machine.cache.slots[l.task.toNat]? = some old ∧ slot = noticedSlot s old ∧
      s.context.task l.task.toNat = .ok task ∧
      (slot.code = some code ∧
          slot.recompilationNeeded l.batchThreads.toNat task.writesLoopIndex = false ∧
          t.machine.cache.slots[l.task.toNat]? =
            some (slot.fit l.batchThreads.toNat task.writesLoopIndex) ∨
        (slot.fit l.batchThreads.toNat task.writesLoopIndex).code = none ∧
          code.batchThreads = l.batchThreads.toNat ∧ code.batchNumber = slot.batchNumber ∧
          t.machine.cache.slots[l.task.toNat]? =
            some ((slot.fit l.batchThreads.toNat task.writesLoopIndex).install code
              task.writesLoopIndex)) := by
  simp only [compile, Op.yields_bind, yields_syncEpoch] at ran
  obtain ⟨_, _, ⟨current, rfl⟩ | ⟨reset, _, rfl⟩, fitted⟩ := ran
  · obtain ⟨slot, task, found, known, outcome⟩ := fitCode_code fitted held
    exact ⟨slot, slot, task, found, (if_pos current).symm, known, outcome⟩
  · obtain ⟨slot, task, found, known, outcome⟩ := fitCode_code fitted held
    change (s.machine.cache.clear.slots)[l.task.toNat]? = some slot at found
    rw [CodeCache.clear, List.getElem?_map] at found
    obtain ⟨old, earlier, rfl⟩ := Option.map_eq_some_iff.1 found
    exact ⟨old, _, task, earlier, (if_neg reset).symm, known, outcome⟩

/-- A compilation keeps the schedule. -/
theorem compile_schedule {u : Unit} (ran : Op.Yields (compile l) s u t) :
    t.machine.schedule = s.machine.schedule := by
  simp only [compile, Op.yields_bind, yields_syncEpoch] at ran
  obtain ⟨_, _, ⟨_, rfl⟩ | ⟨_, _, rfl⟩, _, rfl⟩ := ran
  · exact fitCode_schedule l s
  · exact fitCode_schedule l (afterNotice s)

end Machine
end Offload
