import Offload.Proofs.Binaries

/-! Which compilation a launch calls for. It is a matter of the slot of its task, of the grid that is
scheduled for the task, and of the launch: the device is asked for exactly that compilation, or for none. -/
namespace Offload

namespace CodeCache

variable {c : CodeCache} {index threads : Nat} {indexInWrite : Bool}

/-- A fit looks at one slot only. -/
theorem prepare_slot (c : CodeCache) (index threads : Nat) (indexInWrite : Bool) :
    (c.prepare index threads indexInWrite).2.slot index =
      match c.slots[index]? with
      | none => {}
      | some slot => slot.fit threads indexInWrite := by
  rcases found : c.slots[index]? with _ | slot
  · rw [prepare_absent found, CodeCache.slot, found]
    rfl
  · refine slot_eq ?_
    rw [prepare_slots found]
    exact List.getElem?_set_self (List.getElem?_eq_some_iff.1 found).1

end CodeCache

namespace Machine

variable {s t : Session} {l : Launch} {task : Task}

/-- The compilation that a launch calls for, if it calls for one. -/
def compilation? (s : Session) (l : Launch) : Option CompileRequest := do
  let task ← s.context.tasks[l.task.toNat]?
  if (prepared s l task).machine.cache.needsCompile l.task.toNat then
    some (requestOf (prepared s l task) l.task.toNat task)
  else none

/-- The same slot, grid and task call for the same compilation. -/
theorem compilation?_congr (tasks : t.context.tasks = s.context.tasks)
    (slot : t.machine.cache.slots[l.task.toNat]? = s.machine.cache.slots[l.task.toNat]?)
    (scheduled : ∀ task, s.context.tasks[l.task.toNat]? = some task →
      t.machine.schedule.get? task.id = s.machine.schedule.get? task.id) :
    compilation? t l = compilation? s l := by
  unfold compilation?
  rw [tasks]
  refine Option.bind_congr fun task known => ?_
  have same : (prepared t l task).machine.cache.slot l.task.toNat =
      (prepared s l task).machine.cache.slot l.task.toNat := by
    show (CodeCache.prepare _ _ _ _).2.slot _ = (CodeCache.prepare _ _ _ _).2.slot _
    rw [CodeCache.prepare_slot, CodeCache.prepare_slot, slot]
  simp only [CodeCache.needsCompile, requestOf, CodeCache.request, same]
  rw [show (prepared t l task).machine.schedule = t.machine.schedule from rfl, scheduled task known]
  rfl

/-- What a slot calls for once it is fitted to the launch. -/
theorem compilation?_eq {slot : CacheSlot} (known : s.context.tasks[l.task.toNat]? = some task)
    (found : s.machine.cache.slots[l.task.toNat]? = some slot) {fitted : CacheSlot}
    (fit : fitted = slot.fit l.batchThreads.toNat task.writesLoopIndex) :
    compilation? s l =
      if fitted.needsCompile then
        some
          { task, taskIndex := l.task.toNat, batchThreads := fitted.batchThreads
            batchSize := fitted.batchSize, batchNumber := fitted.batchNumber
            grid := s.machine.schedule.get? task.id, force := fitted.force }
      else none := by
  have ready : (prepared s l task).machine.cache.slot l.task.toNat = fitted := by
    show (CodeCache.prepare _ _ _ _).2.slot _ = _
    rw [CodeCache.prepare_slot, found, fit]
  unfold compilation?
  simp only [known, bind, Option.bind_some, CodeCache.needsCompile, requestOf, CodeCache.request, ready]
  rfl

theorem compilation?_known (known : s.context.tasks[l.task.toNat]? = some task) :
    compilation? s l =
      if (prepared s l task).machine.cache.needsCompile l.task.toNat then
        some (requestOf (prepared s l task) l.task.toNat task)
      else none := by
  unfold compilation?
  rw [known]
  rfl

/-- A launch that calls for no compilation leaves the device alone. -/
theorem compile_idle (current : s.device.epoch = s.machine.epoch)
    (known : s.context.tasks[l.task.toNat]? = some task) (idle : compilation? s l = none) :
    Op.Yields (compile l) s () (prepared s l task) := by
  rw [compilation?_known known] at idle
  rw [Op.Yields, compile_current current]
  rcases fitCode_cases l s with ⟨e, unknown, _⟩ | ⟨task', known', outcome⟩
  · rw [task_ok_iff.2 known] at unknown
    cases unknown
  rw [task_ok_iff.2 known] at known'
  cases known'
  rcases outcome with ⟨_, ran⟩ | ⟨due, _, _⟩
  · exact ran
  · rw [if_pos due] at idle
    cases idle

/-- One that calls for a compilation asks the device for it, and puts the binary into the slot if the
device accepts the task. -/
theorem compile_builds {request : CompileRequest} (current : s.device.epoch = s.machine.epoch)
    (known : s.context.tasks[l.task.toNat]? = some task) (asks : compilation? s l = some request)
    (accepted : s.device.checkTask request.task = .ok ()) :
    request = requestOf (prepared s l task) l.task.toNat task ∧
      Op.Yields (compile l) s () (afterBuild (prepared s l task) l.task.toNat task) := by
  rw [compilation?_known known] at asks
  by_cases due : (prepared s l task).machine.cache.needsCompile l.task.toNat
  case neg =>
    rw [if_neg due] at asks
    cases asks
  rw [if_pos due] at asks
  cases asks
  refine ⟨rfl, ?_⟩
  rw [Op.Yields, compile_current current]
  rcases fitCode_cases l s with ⟨e, unknown, _⟩ | ⟨task', known', outcome⟩
  · rw [task_ok_iff.2 known] at unknown
    cases unknown
  rw [task_ok_iff.2 known] at known'
  cases known'
  rcases outcome with ⟨fits, _⟩ | ⟨_, result, state⟩
  · rw [fits] at due
    cases due
  rcases buildCode_cases (prepared s l task) l.task.toNat task with ⟨e, refused, _⟩ | ⟨_, built⟩
  · cases refused.symm.trans accepted
  · exact ⟨result.trans built.1, state.trans built.2⟩

end Machine
end Offload
