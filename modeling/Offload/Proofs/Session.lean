import Offload.Proofs.Bindings
import Offload.Proofs.Device
import Offload.Proofs.MachineWalk

/-! What the work of a machine leaves alone. Only launches and changes of the settings touch the
binaries; everything else keeps them, keeps the tasks and the program, and keeps the books: the budget
holds what the machine has bound and what others have bound. -/
namespace Offload

/-- The event lists have the capacity that the settings name. -/
def Machine.Sized (m : Machine) : Prop :=
  m.lists.capacity = m.config.maxEvents

namespace Session

open Machine (setConfig setProfiler)

/-- The budget holds the bytes that the machine has bound and `others` besides, and each bound buffer
was handed out by the device. -/
structure Books (s : Session) (others : Nat) : Prop where
  usage : s.context.memory.usage = s.machine.bindings.boundBytes + others
  issued : s.machine.bindings.IssuedBy s.device.memory

/-- Whatever others have bound, books that were right stay right. -/
def Accounts (before after : Session) : Prop :=
  ∀ others, before.Books others → after.Books others

/-- The parts that only launches and settings touch. -/
structure Frames (before after : Session) : Prop where
  tasks : after.context.tasks = before.context.tasks
  program : after.machine.program = before.machine.program
  epoch : after.machine.epoch = before.machine.epoch
  cache : after.machine.cache = before.machine.cache
  schedule : after.machine.schedule = before.machine.schedule
  device : Device.Keeps before.device after.device
  sized : before.machine.Sized → after.machine.Sized

structure Keeps (before after : Session) : Prop where
  frames : Frames before after
  accounts : Accounts before after

variable {s t : Session} {α : Type}

instance : Op.Transition Accounts where
  refl _ := fun _ books => books
  trans first second := fun others books => second others (first others books)

instance : Op.Transition Frames where
  refl _ := ⟨rfl, rfl, rfl, rfl, rfl, Op.Transition.refl _, id⟩
  trans first second :=
    ⟨second.tasks.trans first.tasks, second.program.trans first.program,
      second.epoch.trans first.epoch, second.cache.trans first.cache,
      second.schedule.trans first.schedule, Op.Transition.trans first.device second.device,
      fun sized => second.sized (first.sized sized)⟩

instance : Op.Transition Keeps where
  refl _ := ⟨Op.Transition.refl _, Op.Transition.refl _⟩
  trans first second :=
    ⟨Op.Transition.trans first.frames second.frames,
      Op.Transition.trans first.accounts second.accounts⟩

/-- Books only look at the usage, the bindings and the memory. -/
theorem accounts_of_same (usage : t.context.memory.usage = s.context.memory.usage)
    (bindings : t.machine.bindings = s.machine.bindings)
    (memory : s.device.memory.Grows t.device.memory) : Accounts s t := by
  intro others books
  refine ⟨?_, ?_⟩
  · rw [usage, bindings, books.usage]
  · rw [bindings]
    exact Bindings.issuedBy_later books.issued memory

private theorem keeps_of_frames (frames : Frames s t)
    (usage : t.context.memory.usage = s.context.memory.usage)
    (bindings : t.machine.bindings = s.machine.bindings) : Keeps s t :=
  ⟨frames, accounts_of_same usage bindings frames.device.memory⟩

/-! ### What the work of a machine may change -/

instance : ToleratesWork Device.Keeps Frames where
  device _ _ kept := ⟨rfl, rfl, rfl, rfl, rfl, kept, id⟩
  passes _ _ _ _ := ⟨rfl, rfl, rfl, rfl, rfl, Op.Transition.refl _, id⟩
  timer _ _ _ := ⟨rfl, rfl, rfl, rfl, rfl, Op.Transition.refl _, id⟩
  kernelTime _ _ _ := ⟨rfl, rfl, rfl, rfl, rfl, Op.Transition.refl _, id⟩

instance : ToleratesCopies Frames where
  object _ _ _ := ⟨rfl, rfl, rfl, rfl, rfl, Op.Transition.refl _, id⟩
  metric _ _ _ _ := ⟨rfl, rfl, rfl, rfl, rfl, Op.Transition.refl _, id⟩

instance : ToleratesLists Frames where
  lists _ _ same := ⟨rfl, rfl, rfl, rfl, rfl, Op.Transition.refl _, same.trans⟩

instance : ToleratesBindings Frames where
  binding _ _ _ := ⟨rfl, rfl, rfl, rfl, rfl, Op.Transition.refl _, id⟩
  forget _ := ⟨rfl, rfl, rfl, rfl, rfl, Op.Transition.refl _, id⟩
  charge _ _ := ⟨rfl, rfl, rfl, rfl, rfl, Op.Transition.refl _, id⟩
  discharge _ _ := ⟨rfl, rfl, rfl, rfl, rfl, Op.Transition.refl _, id⟩

instance : ToleratesWork Device.Keeps Keeps where
  device s device kept := keeps_of_frames (ToleratesMeasures.device s device kept) rfl rfl
  passes s frames stats finished := keeps_of_frames (ToleratesWork.passes s frames stats finished) rfl rfl
  timer s kind nanoseconds := keeps_of_frames (ToleratesMeasures.timer s kind nanoseconds) rfl rfl
  kernelTime s key value := keeps_of_frames (ToleratesMeasures.kernelTime s key value) rfl rfl

instance : ToleratesCopies Keeps where
  object s index object := keeps_of_frames (ToleratesCopies.object s index object) rfl rfl
  metric s kind key value := keeps_of_frames (ToleratesMetrics.metric s kind key value) rfl rfl

instance : ToleratesLists Keeps where
  lists s lists same := keeps_of_frames (ToleratesLists.lists s lists same) rfl rfl

/-- A change of the machine that is not about bindings, binaries or the program. -/
theorem keeps_modifyMachine {change : Machine → Machine}
    (program : ∀ m, (change m).program = m.program) (epoch : ∀ m, (change m).epoch = m.epoch)
    (cache : ∀ m, (change m).cache = m.cache) (schedule : ∀ m, (change m).schedule = m.schedule)
    (bindings : ∀ m, (change m).bindings = m.bindings) (sized : ∀ m, m.Sized → (change m).Sized) :
    Op.Moves (modifyMachine change) Keeps := by
  refine Op.moves_modify fun s => ?_
  exact keeps_of_frames
    ⟨rfl, program _, epoch _, cache _, schedule _, Op.Transition.refl _, sized _⟩ rfl (bindings _)

theorem keeps_setProfiler (profiler : Profiler) : Op.Moves (setProfiler profiler) Keeps :=
  keeps_modifyMachine (fun _ => rfl) (fun _ => rfl) (fun _ => rfl) (fun _ => rfl) (fun _ => rfl) fun _ => id

/-- A binding whose buffer stays counts the same. -/
theorem keeps_modifyBinding (object : Nat) {change : Binding → Binding}
    (same : ∀ b, (change b).buffer = b.buffer) : Op.Moves (modifyBinding object change) Keeps := by
  refine Op.moves_modify fun s => ?_
  refine ⟨⟨rfl, rfl, rfl, rfl, rfl, Op.Transition.refl _, id⟩, ?_⟩
  intro others books
  refine ⟨?_, Bindings.issuedBy_modify_same same books.issued⟩
  show s.context.memory.usage = (s.machine.bindings.modify object change).boundBytes + others
  rw [Bindings.boundBytes_modify_same same]
  exact books.usage

private theorem keeps_setLimit (limit : Option Nat) :
    Op.Moves (modifyMemory fun b => b.setLimit limit) Keeps := by
  refine Op.moves_modify fun s => ?_
  exact keeps_of_frames ⟨rfl, rfl, rfl, rfl, rfl, Op.Transition.refl _, id⟩ rfl rfl

theorem keeps_setConfig (config : Config) : Op.Moves (setConfig config) Keeps := by
  refine Op.moves_bind (keeps_modifyMachine ?_ ?_ ?_ ?_ ?_ ?_) fun _ => ?_
  iterate 5
    intro m
    split <;> rfl
  · intro m sized
    split
    · next same => exact sized.trans same.symm
    · rfl
  cases config.memoryLimit with
  | none => exact Op.moves_pure _
  | some limit => exact keeps_setLimit _

end Session
end Offload
