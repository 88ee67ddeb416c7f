import Offload.Proofs.Commands

/-! What changes hands. Four parts of the work of a machine change what it has bound or what its context
is charged: an allocation, a release, the loss of all buffers to a reset, and the mark on a buffer that
has received its whole object. Whatever survives these four survives every command but a change of the
configuration, which may bring another limit; and the two that lose something are all that there is in
an instruction which is no allocation and no copy to the device. -/
namespace Offload

namespace Session

/-- Neither the budget nor the bindings change. -/
structure Unmoved (before after : Session) : Prop where
  budget : after.context.memory = before.context.memory
  bindings : after.machine.bindings = before.machine.bindings

instance : Op.Transition Unmoved where
  refl _ := ⟨rfl, rfl⟩
  trans first second := ⟨second.budget.trans first.budget, second.bindings.trans first.bindings⟩

/-- A relation that survives the loss of buffers. -/
structure WithstandsLoss (R : Session → Session → Prop) : Prop where
  still : ∀ s t, Unmoved s t → R s t
  dealloc : ∀ object, Op.Moves (Machine.dealloc object) R
  forget : Op.Moves Machine.forgetBuffers R

/-- A relation that survives all that moves the budget or the bindings. -/
structure Withstands (R : Session → Session → Prop) : Prop extends WithstandsLoss R where
  alloc : ∀ batchSize objects, Op.Moves (Machine.alloc batchSize objects) R
  content : ∀ object, Op.Moves (modifyBinding object fun b => b.setContent true) R

variable {R : Session → Session → Prop}

instance : ToleratesWork Device.Any Unmoved where
  device _ _ _ := ⟨rfl, rfl⟩
  passes _ _ _ _ := ⟨rfl, rfl⟩
  timer _ _ _ := ⟨rfl, rfl⟩
  kernelTime _ _ _ := ⟨rfl, rfl⟩

instance : ToleratesCopies Unmoved where
  object _ _ _ := ⟨rfl, rfl⟩
  metric _ _ _ _ := ⟨rfl, rfl⟩

instance : ToleratesLists Unmoved where
  lists _ _ _ := ⟨rfl, rfl⟩

instance : ToleratesCode Unmoved where
  code _ _ _ _ := ⟨rfl, rfl⟩

/-! ### What may be lost -/

namespace WithstandsLoss

variable (withstands : WithstandsLoss R)
include withstands

private theorem work : ToleratesWork Device.Any R := .weaken withstands.still

private theorem copies : ToleratesCopies R := .weaken withstands.still

private theorem lists : ToleratesLists R := .weaken withstands.still

private theorem code : ToleratesCode R := .weaken withstands.still

variable [Op.Transition R]

private theorem start : Op.Moves Machine.startPass R :=
  have _ := withstands.lists
  have _ := withstands.code
  Machine.moves_startPass (Machine.moves_syncEpoch withstands.forget)

private theorem compile (l : Launch) : Op.Moves (Machine.compile l) R :=
  have _ := withstands.work
  have _ := withstands.code
  Machine.moves_compile withstands.forget l

/-- One instruction of a warmup. -/
theorem warmEntry (last : Option EventId) (entry : Entry) : Op.Moves (Machine.stepEntry true last entry) R :=
  Machine.moves_stepEntry (fun _ => Machine.moves_warmInstruction _ _ fun l _ => withstands.compile l) nofun

/-- One instruction of a run, if it survives what the instruction may gain. -/
theorem instruction (last : Option EventId) (entry : Entry)
    (alloc : ∀ batchSize objects, entry.instruction = .alloc batchSize objects →
      Op.Moves (Machine.alloc batchSize.toNat objects) R)
    (copyIn : ∀ kind t, entry.instruction = .transfer kind t → kind = .inOnce ∨ kind = .inAlways →
      ∀ once, Op.Moves (Machine.transferIn t once) R) :
    Op.Moves (Machine.stepEntry false last entry) R := by
  have _ := withstands.work
  have _ := withstands.copies
  have _ := withstands.lists
  refine Machine.moves_stepEntry nofun fun _ => ?_
  exact Machine.moves_runInstruction last _ _ alloc (fun _ _ => withstands.dealloc _) copyIn
    fun l _ => withstands.compile l

/-- What withstands the loss of buffers withstands every command, passes, instructions and changes of the
configuration aside. -/
theorem command (command : MachineCommand)
    (configures : ∀ config, command = .setConfig config → Op.Moves (Machine.setConfig config) R)
    (executes : ∀ mode, command = .execute mode ∨ command = .warmup → Op.Moves (Machine.execute mode) R)
    (performs : ∀ warm last index, command = .perform warm last index →
      Op.Moves (MachineCommand.performAt warm last index) R) :
    Op.Moves command.run R :=
  have _ := withstands.work
  have _ := withstands.lists
  have _ := withstands.code
  command.moves withstands.dealloc withstands.forget (fun _ _ _ => withstands.still _ _ ⟨rfl, rfl⟩) configures
    executes performs

end WithstandsLoss

/-! ### All that moves -/

namespace Withstands

variable [Op.Transition R] (withstands : Withstands R)
include withstands

private theorem entry (warmup : Bool) (last : Option EventId) (entry : Entry) :
    Op.Moves (Machine.stepEntry warmup last entry) R := by
  have _ := withstands.work
  have _ := withstands.copies
  have _ := withstands.lists
  cases warmup with
  | true => exact withstands.warmEntry last entry
  | false =>
    exact withstands.instruction last entry (fun _ _ _ => withstands.alloc _ _)
      fun _ _ _ _ _ => Machine.moves_transferIn withstands.content _ _

private theorem pass (warmup : Bool) : Op.Moves (Machine.pass warmup) R :=
  have _ := withstands.work
  Op.moves_bind withstands.start fun _ => Op.moves_bind Op.moves_get fun _ =>
    Machine.moves_runEntries (Machine.moves_endPass _) (fun _ _ _ => withstands.entry _ _ _) _

/-- What withstands all that moves the budget or the bindings withstands every command. -/
theorem command (command : MachineCommand)
    (configures : ∀ config, command = .setConfig config → Op.Moves (Machine.setConfig config) R) :
    Op.Moves command.run R :=
  have _ := withstands.work
  withstands.toWithstandsLoss.command command configures
    (fun mode _ => Machine.moves_execute withstands.pass Machine.moves_concludePass mode)
    fun _ _ index _ => MachineCommand.moves_performAt index (withstands.entry _ _)

end Withstands

end Session
end Offload
