import Offload.Proofs.Buffers

/-! Passes, instruction by instruction. Whatever holds from step to step of a machine holds from the
start of a pass to its end, as long as it survives compilations and the notice of a reset; no other
instruction can do it harm. -/
namespace Offload

/-- A program has the launch, behind BEGIN and before any END. -/
def Cursor.Launches (program : Cursor) (l : Launch) : Prop :=
  ∃ offset, ⟨offset, .launch l⟩ ∈ program.scan.entries

namespace Machine

variable {s t : Session} {others : Nat}

/-- The books do not say whether a buffer has content. -/
theorem keeps_transferIn (t : Transfer) (once : Bool) : Op.Moves (transferIn t once) Session.Keeps :=
  moves_transferIn (fun object => Session.keeps_modifyBinding object fun _ => rfl) t once

theorem traceEntry_yields {warmup : Bool} {entry : Entry} : Op.Yields (traceEntry warmup entry) s () s := by
  refine Op.yields_bind.2 ⟨s, s, Op.yields_get.2 ⟨rfl, rfl⟩, ?_⟩
  split
  · exact Op.yields_emit.2 rfl
  · exact Op.yields_pure.2 ⟨rfl, rfl⟩

/-! ### From steps to passes -/

section Steps

variable {R : Session → Session → Prop} [Op.Transition R] {warmup : Bool} {stop : ScanStop}

omit [Op.Transition R] in
private theorem moves_of_keeps {α : Type} {op : MachineOp α} (frame : ∀ s t, Session.Keeps s t → R s t)
    (h : Op.Moves op Session.Keeps) : Op.Moves op R :=
  fun s => frame _ _ (h s)

/-- Whatever follows from what a session keeps survives an instruction, if it survives compilations. -/
theorem survives_runInstruction (frame : ∀ s t, Session.Keeps s t → R s t) (last : Option EventId)
    (offset : Nat) (i : Instruction) (compiles : ∀ l, i = .launch l → Op.Moves (compile l) R) :
    Op.Moves (runInstruction last offset i) R := by
  have _ := Session.ToleratesWork.weaken frame
  have _ := Session.ToleratesCopies.weaken frame
  have _ := Session.ToleratesLists.weaken frame
  exact moves_runInstruction last offset i (fun _ _ _ => moves_of_keeps frame (keeps_alloc _ _))
    (fun _ _ => moves_of_keeps frame (keeps_dealloc _))
    (fun _ _ _ _ _ => moves_of_keeps frame (keeps_transferIn _ _)) compiles

/-- Whatever follows from what a session keeps survives an entry, if it survives compilations. -/
theorem survives_stepEntry (frame : ∀ s t, Session.Keeps s t → R s t) (last : Option EventId)
    (entry : Entry) (compiles : ∀ l, entry.instruction = .launch l → Op.Moves (compile l) R) :
    Op.Moves (stepEntry warmup last entry) R :=
  moves_stepEntry (fun _ => moves_warmInstruction _ _ compiles) fun _ =>
    survives_runInstruction frame _ _ _ compiles

private theorem survives_runEntries (frame : ∀ s t, Session.Keeps s t → R s t) (last : Option EventId)
    (entries : List Entry) (compiles : ∀ l, (∃ offset, ⟨offset, .launch l⟩ ∈ entries) → Op.Moves (compile l) R) :
    Op.Moves (runEntries warmup stop last entries) R := by
  refine moves_runEntries (moves_of_keeps frame (moves_endPass _)) (fun last entry member => ?_) last
  obtain ⟨offset, i⟩ := entry
  refine survives_stepEntry frame last _ ?_
  rintro l rfl
  exact compiles l ⟨offset, member⟩

/-- A warmup is its compilations and nothing else. -/
theorem moves_warmEntries (last : Option EventId) (entries : List Entry)
    (compiles : ∀ l, (∃ offset, ⟨offset, .launch l⟩ ∈ entries) → Op.Moves (compile l) R) :
    Op.Moves (runEntries true stop last entries) R := by
  refine moves_runEntries (Op.moves_pure _) (fun last entry member => ?_) last
  obtain ⟨offset, i⟩ := entry
  refine moves_stepEntry (fun _ => moves_warmInstruction _ _ ?_) nofun
  rintro l rfl
  exact compiles l ⟨offset, member⟩

/-- Whatever follows from what a session keeps survives the start of a pass, if it survives the look at the epoch. -/
theorem survives_startPass (frame : ∀ s t, Session.Keeps s t → R s t) (sync : Op.Moves syncEpoch R) :
    Op.Moves startPass R :=
  have _ := Session.ToleratesLists.weaken frame
  moves_startPass sync

end Steps

/-! ### The notice of a reset -/

/-- Tasks, program and device stay, the memory of the device only grows, and the books stay right. -/
structure Continues (before after : Session) : Prop where
  tasks : after.context.tasks = before.context.tasks
  program : after.machine.program = before.machine.program
  device : Device.Keeps before.device after.device
  accounts : Session.Accounts before after

instance : Op.Transition Continues where
  refl _ := ⟨rfl, rfl, Op.Transition.refl _, Op.Transition.refl _⟩
  trans first second :=
    ⟨second.tasks.trans first.tasks, second.program.trans first.program,
      Op.Transition.trans first.device second.device,
      Op.Transition.trans first.accounts second.accounts⟩

/-- A machine goes on where its session is kept. -/
theorem continues_of_keeps (s t : Session) (kept : Session.Keeps s t) : Continues s t :=
  ⟨kept.frames.tasks, kept.frames.program, kept.frames.device, kept.accounts⟩

/-- A change of the machine that is not about bindings or the program. -/
theorem continues_machine {m : Machine} (program : m.program = s.machine.program)
    (bindings : m.bindings = s.machine.bindings) : Continues s { s with machine := m } :=
  ⟨rfl, program, Op.Transition.refl _,
    Session.accounts_of_same rfl bindings (Op.Transition.refl _)⟩

instance : Session.ToleratesWork Device.Keeps Continues := .weaken continues_of_keeps

instance : Session.ToleratesCode Continues where
  code _ _ _ _ := continues_machine rfl rfl

/-- Forgetting buffers takes all bound bytes off the usage. -/
theorem forgetBuffers_yields (s : Session) :
    Op.Yields forgetBuffers s s.machine.bindings.boundBytes
      { s with
        context.memory := s.context.memory.sub s.machine.bindings.boundBytes
        machine.bindings := s.machine.bindings.unbindAll
        machine.frames := {} } :=
  ⟨rfl, rfl⟩

/-- Forgotten bytes were on the books, and nothing of this machine is left on them. -/
theorem forgetBuffers_exact {bytes : Nat} (books : s.Books others)
    (ran : Op.Yields forgetBuffers s bytes t) :
    bytes = s.machine.bindings.boundBytes ∧ usage t + bytes = usage s ∧
      t.machine.bindings.boundBytes = 0 ∧ t.Books others := by
  obtain ⟨result, state⟩ := ran
  obtain ⟨result', state'⟩ := forgetBuffers_yields s
  rw [result'] at result
  cases result
  rw [state'] at state
  subst state
  have charged := books.usage
  refine ⟨rfl, ?_, Bindings.boundBytes_unbindAll _, ?_, ?_⟩
  · show s.context.memory.usage - s.machine.bindings.boundBytes + s.machine.bindings.boundBytes =
      s.context.memory.usage
    omega
  · show s.context.memory.usage - s.machine.bindings.boundBytes =
      s.machine.bindings.unbindAll.boundBytes + others
    rw [Bindings.boundBytes_unbindAll]
    omega
  · exact Bindings.issuedBy_of_unbound (Bindings.buffer?_unbindAll _)

/-- A machine goes on from forgotten buffers. -/
theorem continues_forgetBuffers : Op.Moves forgetBuffers Continues := by
  intro s
  have ran := forgetBuffers_yields s
  rw [ran.2]
  refine ⟨rfl, rfl, Op.Transition.refl _, ?_⟩
  intro others books
  exact (forgetBuffers_exact books ran).2.2.2

/-- A session whose machine has noticed a reset of the device. -/
def afterNotice (s : Session) : Session :=
  { s with
    context.memory := s.context.memory.sub s.machine.bindings.boundBytes
    machine.bindings := s.machine.bindings.unbindAll
    machine.frames := {}
    machine.cache := s.machine.cache.clear
    machine.epoch := s.device.epoch }

/-- On a device of its epoch a machine notices nothing. -/
theorem syncEpoch_current (current : s.device.epoch = s.machine.epoch) :
    Op.Yields syncEpoch s () s := by
  simp only [syncEpoch, Op.yields_bind, Op.yields_get]
  refine ⟨s, s, ⟨rfl, rfl⟩, ?_⟩
  rw [if_pos current]
  exact ⟨rfl, rfl⟩

/-- After a warmup the loss of the device is an error, and nothing has changed. -/
theorem syncEpoch_fatal (reset : s.device.epoch ≠ s.machine.epoch)
    (finished : s.machine.finishedWarmup = true) :
    (syncEpoch s).result = .error (.deviceReset s.machine.info.text) ∧ (syncEpoch s).state = s := by
  unfold syncEpoch
  rw [Op.get_bind, if_neg reset, if_pos finished]
  exact ⟨rfl, rfl⟩

/-- Before the end of a warmup a machine takes the loss of its device. -/
theorem syncEpoch_notice (reset : s.device.epoch ≠ s.machine.epoch)
    (unfinished : s.machine.finishedWarmup = false) :
    Op.Yields syncEpoch s () (afterNotice s) := by
  simp only [syncEpoch, Op.yields_bind, Op.yields_get]
  refine ⟨s, s, ⟨rfl, rfl⟩, ?_⟩
  rw [if_neg reset, if_neg (by simp [unfinished])]
  exact ⟨rfl, rfl⟩

/-- A machine gets past the look at the epoch if nothing was lost, or if it may take the loss. -/
theorem yields_syncEpoch {u : Unit} : Op.Yields syncEpoch s u t ↔
    s.device.epoch = s.machine.epoch ∧ s = t ∨
      s.device.epoch ≠ s.machine.epoch ∧ s.machine.finishedWarmup = false ∧ afterNotice s = t := by
  by_cases current : s.device.epoch = s.machine.epoch
  · obtain ⟨result, state⟩ := syncEpoch_current current
    simp only [Op.Yields, result, state, current, true_and, ne_eq, not_true_eq_false, false_and, or_false]
  rcases finished : s.machine.finishedWarmup with _ | _
  · obtain ⟨result, state⟩ := syncEpoch_notice current finished
    simp only [Op.Yields, result, state, current, true_and, ne_eq, not_false_eq_true, false_and, false_or]
  · obtain ⟨result, state⟩ := syncEpoch_fatal current finished
    simp [Op.Yields, result, current]

theorem continues_syncEpoch : Op.Moves syncEpoch Continues := moves_syncEpoch continues_forgetBuffers

/-- A machine goes on from a compilation. -/
theorem continues_compile (l : Launch) : Op.Moves (compile l) Continues := moves_compile continues_forgetBuffers l

/-! ### Whole passes -/

/-- A budget that is exceeded already keeps a pass from starting. -/
theorem execute_exceeded (mode : Mode) (exceeded : s.context.memory.exceeded = true) :
    (execute mode s).result = .error (.outOfMemory s.context.memory.usage 0
        (s.context.memory.limit.getD Text.maxUInt64)) ∧
      (execute mode s).state = s := by
  unfold execute
  rw [Op.get_bind]
  dsimp only
  rw [if_pos exceeded]
  exact ⟨rfl, rfl⟩

/-- Within the budget an execution is a pass and its conclusion. -/
theorem execute_within (mode : Mode) (within : s.context.memory.exceeded = false) :
    (execute mode s).result =
        (pass (mode = .warmup || s.machine.config.virtualDevice) s).result ∧
      (execute mode s).state =
        (concludePass (mode = .warmup || s.machine.config.virtualDevice)
          (pass (mode = .warmup || s.machine.config.virtualDevice) s).result
          (pass (mode = .warmup || s.machine.config.virtualDevice) s).state).state := by
  unfold execute
  rw [Op.get_bind]
  dsimp only
  rw [if_neg (by simp [within])]
  generalize (decide (mode = .warmup) || s.machine.config.virtualDevice) = warmup
  rcases ran : pass warmup s with ⟨result, after, log⟩
  have started : Op.emit (Performance.spanStart "interpreter_pass" [("warmup", warmup)]) s =
      (⟨.ok (), s, [Performance.spanStart "interpreter_pass" [("warmup", warmup)]]⟩ :
        Outcome MachineError Session Unit) := rfl
  have done : Op.attempt (pass warmup) s =
      (⟨.ok result, after, log⟩ :
        Outcome MachineError Session (Except MachineError (Option EventId))) := by
    simp only [Op.attempt, ran]
  rw [Op.bind_ok started]
  dsimp only
  rw [show (do startPass; runProgram warmup : MachineOp (Option EventId)) = pass warmup from rfl,
    Op.bind_ok done]
  cases result with
  | error e => exact ⟨rfl, rfl⟩
  | ok marker => exact ⟨rfl, rfl⟩

section Passes

variable {R : Session → Session → Prop} [Op.Transition R]

/-- Whatever follows from what a session keeps survives a program, if it survives the compilations of its launches. -/
theorem survives_runProgram (frame : ∀ s t, Session.Keeps s t → R s t) (warmup : Bool) (s : Session)
    (compiles : ∀ l, s.machine.program.Launches l → Op.Moves (compile l) R) :
    R s (runProgram warmup s).state :=
  survives_runEntries frame none s.machine.program.scan.entries compiles s

/-- What survives the notice of a reset and the compilations of its launches survives a pass. -/
theorem survives_execute (frame : ∀ s t, Session.Keeps s t → R s t) (sync : Op.Moves syncEpoch R)
    (mode : Mode) (s : Session) (compiles : ∀ l, s.machine.program.Launches l → Op.Moves (compile l) R) :
    R s (execute mode s).state := by
  rcases within : s.context.memory.exceeded with _ | _
  · have survived (warmup : Bool) : R s (pass warmup s).state := by
      refine Op.related_bind (survives_startPass frame sync s) fun _ => ?_
      refine survives_runProgram frame warmup _ ?_
      rintro l ⟨offset, member⟩
      rw [(survives_startPass continues_of_keeps continues_syncEpoch s).program] at member
      exact compiles l ⟨offset, member⟩
    rw [(execute_within mode within).2]
    exact Op.Transition.trans (survived _) (frame _ _ (moves_concludePass _ _ _))
  · rw [(execute_exceeded mode within).2]
    exact Op.Transition.refl s

/-- Whatever follows from what a session keeps survives a warmup, if it survives the compilations of its launches. -/
theorem survives_warmup (frame : ∀ s t, Session.Keeps s t → R s t) (sync : Op.Moves syncEpoch R)
    (s : Session) (compiles : ∀ l, s.machine.program.Launches l → Op.Moves (compile l) R) :
    R s (warmup s).state := by
  refine Op.related_bind (frame _ _ (moves_setFinished false s)) fun _ => ?_
  refine Op.related_bind (survives_execute frame sync .warmup _ compiles) fun _ => ?_
  exact frame _ _ (moves_setFinished true _)

end Passes

/-! ### Where a pass has got to -/

/-- From a session on, a pass has carried out these instructions and stands in front of the next. -/
def Arrives (s : Session) (done : List Entry) (last : Option EventId) (t : Session) : Prop :=
  Op.Yields (do startPass; runPrefix false none done) s last t

/-- What survives compilations survives any number of instructions. -/
theorem survives_runPrefix {R : Session → Session → Prop} [Op.Transition R]
    (frame : ∀ s t, Session.Keeps s t → R s t) (compiles : ∀ l, Op.Moves (compile l) R) (warmup : Bool)
    (last : Option EventId) (entries : List Entry) : Op.Moves (runPrefix warmup last entries) R :=
  moves_runPrefix (fun _ _ _ => survives_stepEntry frame _ _ fun l _ => compiles l) last

/-- A pass over instructions without END is a prefix and what follows. -/
theorem runEntries_append (warmup : Bool) (stop : ScanStop) (last : Option EventId)
    (done rest : List Entry) (ordinary : ∀ e ∈ done, e.instruction ≠ .endPass) :
    runEntries warmup stop last (done ++ rest) = (do
      let last ← runPrefix warmup last done
      runEntries warmup stop last rest) := by
  induction done generalizing last with
  | nil => exact (Op.pure_bind last fun last => runEntries warmup stop last rest).symm
  | cons entry done ih =>
    simp only [List.cons_append, runEntries, runPrefix, Op.bind_assoc]
    congr 1
    funext _
    rw [if_neg (ordinary entry (by simp))]
    congr 1
    funext last
    exact ih last fun e member => ordinary e (by simp [member])

/-- A program goes on from where a pass has got to. -/
theorem runProgram_split {warmup : Bool} {done rest : List Entry} {entry : Entry}
    (split : s.machine.program.scan.entries = done ++ entry :: rest) :
    runProgram warmup s = (do
      let last ← runPrefix warmup none done
      runEntries warmup s.machine.program.scan.stop last (entry :: rest)) s := by
  rw [← runEntries_append _ _ _ _ _ (Cursor.scan_before split), ← split]
  rfl

end Machine
end Offload
