import Offload.Code.Assembly
import Offload.Proofs.EventLists
import Offload.Proofs.PassHistory

/-! No dependency is lost, repeated or passed on. At every point of a pass the event lists hold what the
history says is pending, and the remembered event is the latest of the history. So a machine does what a
run does that reads both from history. -/
namespace Offload.Machine
open Session (SameLists)

variable {past : Deeds} {s t u : Session} {α β : Type} {list : Option UInt32}

/-- The lists of a session hold what the history says. -/
structure Recorded (past : Deeds) (s : Session) : Prop where
  uses : s.machine.config.useDependencies = true
  sized : s.machine.Sized
  holds : ∀ (list : UInt32) events, s.machine.lists.lists[list.toNat]? = some events →
    events = past.pending list

private theorem Recorded.same (recorded : Recorded past s) (same : SameLists s t) : Recorded past t where
  uses := by
    rw [same.config]
    exact recorded.uses
  sized := by
    unfold Sized
    rw [same.lists, same.config]
    exact recorded.sized
  holds := by
    rw [same.lists]
    exact recorded.holds

/-! ### What a machine reads -/

private theorem waitList_recorded (recorded : Recorded past s) (list : Option UInt32) :
    waitList list s = takeList past list s := by
  cases list with
  | none => rfl
  | some list =>
    simp only [waitList, takeList, Op.get_bind, recorded.uses]
    show Op.ofExcept (s.machine.lists.get list.toNat) s = _
    rcases found : s.machine.lists.lists[list.toNat]? with _ | events
    · have outside : s.machine.lists.size ≤ list.toNat := List.getElem?_eq_none_iff.1 found
      rw [if_neg (Nat.not_lt.2 outside), EventLists.get_outside outside]
      rfl
    · have within : list.toNat < s.machine.lists.size := (List.getElem?_eq_some_iff.1 found).1
      rw [if_pos within, EventLists.get_ok_iff.2 found, recorded.holds list events found]
      rfl

private theorem addDependency_recorded (recorded : Recorded past s) (list : Option UInt32) :
    addDependency past.latest list s = appendLatest past list s := by
  simp only [addDependency, appendLatest, Op.get_bind, recorded.uses]
  rcases past.latest with _ | event
  · rfl
  rcases list with _ | list
  · rfl
  simp only [Op.get_bind, Op.step, EventLists.push]
  rcases found : s.machine.lists.lists[list.toNat]? with _ | events
  · have outside : s.machine.lists.size ≤ list.toNat := List.getElem?_eq_none_iff.1 found
    rw [if_pos outside, EventLists.get_outside outside]
    rfl
  · have within : list.toNat < s.machine.lists.size := (List.getElem?_eq_some_iff.1 found).1
    rw [if_neg (Nat.not_le.2 within), EventLists.get_ok_iff.2 found, ← recorded.holds list events found,
      ← recorded.sized]
    by_cases full : s.machine.lists.capacity ≤ events.length
    · rw [if_pos full]
      simp only [bind, Except.bind, if_pos full]
      rfl
    · rw [if_neg full]
      simp only [bind, Except.bind, if_neg full]
      rfl

/-! ### What a machine does -/

/-- In front of a consumer the lists stay as they are, so the history still tells what they hold. -/
theorem recorded_bind {first : MachineOp α} {next next' : α → MachineOp β} (recorded : Recorded past s)
    (same : Op.Moves first SameLists) (tail : ∀ a t, Recorded past t → next a t = next' a t) :
    (first >>= next) s = (first >>= next') s :=
  Op.bind_congr_at rfl fun a t ran => tail a t (recorded.same (same.yields ran))

private theorem transferIn_recorded (recorded : Recorded past s) (t : Transfer) (once : Bool) :
    transferIn t once s = copyInWith (takeList past t.list) t once s := by
  refine recorded_bind recorded Op.moves_get fun _ s recorded => ?_
  refine recorded_bind recorded (Op.moves_ofExcept _) fun entry s recorded => ?_
  split
  · rfl
  refine recorded_bind recorded (Op.moves_ofExcept _) fun buffer s recorded => ?_
  refine recorded_bind recorded (Op.moves_ofExcept _) fun binding s recorded => ?_
  dsimp only
  split
  · rfl
  refine recorded_bind recorded (Op.moves_ofExcept _) fun range s recorded => ?_
  exact Op.bind_congr_at (waitList_recorded recorded t.list) fun _ _ _ => rfl

private theorem transferOut_recorded (recorded : Recorded past s) (t : Transfer) (blocking : Bool) :
    transferOut t blocking s = copyOutWith (takeList past t.list) t blocking s := by
  refine recorded_bind recorded Op.moves_get fun _ s recorded => ?_
  refine recorded_bind recorded (Op.moves_ofExcept _) fun entry s recorded => ?_
  split
  · rfl
  refine recorded_bind recorded (Op.moves_ofExcept _) fun buffer s recorded => ?_
  refine recorded_bind recorded (Op.moves_ofExcept _) fun range s recorded => ?_
  exact Op.bind_congr_at (waitList_recorded recorded t.list) fun _ _ _ => rfl

private theorem launchWith_recorded (recorded : Recorded past s) (l : Launch) (code : Binary) :
    launchWith l code s = runWith (takeList past l.list) l code s := by
  -- The switch is read at the start of the launch; with it on, the write of the atomics is waited for.
  simp only [launchWith, bindLaunch, runWith, Op.bind_assoc, Op.get_bind, recorded.uses, if_true]
  refine recorded_bind recorded (Op.moves_ofExcept _) fun task s recorded => ?_
  refine recorded_bind recorded (moves_setFrames _) fun _ s recorded => ?_
  refine recorded_bind recorded (Op.moves_ofExcept _) fun bound s recorded => ?_
  refine Op.bind_congr_at (waitList_recorded recorded l.list) fun wait s _ => ?_
  exact Op.bind_congr_at rfl fun sent s _ => rfl

private theorem launch_recorded (recorded : Recorded past s) (l : Launch) :
    (do compile l; dispatch l) s = (do compile l; dispatchWith (takeList past l.list) l) s := by
  refine recorded_bind recorded (same_compile l) fun _ s recorded => ?_
  exact recorded_bind recorded (moves_installedCode l) fun code s recorded => launchWith_recorded recorded l code

private theorem barrier_recorded (recorded : Recorded past s) (list : Option UInt32) :
    barrier list s = barrierWith (takeList past list) list s :=
  Op.bind_congr_at (waitList_recorded recorded list) fun _ _ _ => rfl

/-- One instruction: with lists that hold what the history says, a machine does what the history says. -/
theorem runInstruction_recorded (recorded : Recorded past s) (offset : Nat) (i : Instruction) :
    runInstruction past.latest offset i s =
      (replay past offset i >>= fun event =>
        (pure (Deeds.latest (⟨i, idle s.context i, event⟩ :: past)) : MachineOp _)) s := by
  cases i with
  | transfer kind t =>
    cases kind with
    | inOnce =>
      simp only [replay, Op.bind_assoc, Op.pure_bind]
      exact Op.bind_congr_at (transferIn_recorded recorded t true) fun _ _ _ => rfl
    | inAlways =>
      simp only [replay, Op.bind_assoc, Op.pure_bind]
      exact Op.bind_congr_at (transferIn_recorded recorded t false) fun _ _ _ => rfl
    | outAlways =>
      show _ = (copyOutWith _ t false >>= fun event => pure event) s
      rw [Op.bind_pure]
      exact transferOut_recorded recorded t false
    | outBlocking =>
      simp only [replay, Op.bind_assoc, Op.pure_bind]
      exact Op.bind_congr_at (transferOut_recorded recorded t true) fun _ _ _ => rfl
  | launch l =>
    show _ = (replay past offset (.launch l) >>= fun event => pure event) s
    rw [Op.bind_pure]
    simp only [runInstruction, replay, Op.map_eq_bind, ← Op.bind_assoc]
    exact Op.bind_congr_at (launch_recorded recorded l) fun _ _ _ => rfl
  | barrier list =>
    show _ = (replay past offset (.barrier list) >>= fun event => pure event) s
    rw [Op.bind_pure]
    simp only [runInstruction, replay, Op.map_eq_bind]
    exact Op.bind_congr_at (barrier_recorded recorded list) fun _ _ _ => rfl
  | addDependency list =>
    simp only [replay, Op.bind_assoc, Op.pure_bind]
    exact Op.bind_congr_at (addDependency_recorded recorded list) fun _ _ _ => rfl
  | alloc batchSize objects => simp only [replay, runInstruction, Op.bind_assoc, Op.pure_bind]; rfl
  | dealloc object => simp only [replay, runInstruction, Op.bind_assoc, Op.pure_bind]; rfl
  | onDevice object => simp only [replay, runInstruction, Op.bind_assoc, Op.pure_bind]; rfl
  | context device => rfl
  | beginPass => rfl
  | endPass => rfl

/-! ### What a machine leaves behind -/

/-- The list was emptied, and no other was touched. -/
structure TookList (list : Option UInt32) (before after : Session) : Prop where
  emptied : before.machine.lists.reset (list.map UInt32.toNat) = .ok after.machine.lists
  config : after.machine.config = before.machine.config

/-- An operation that empties a list on its way. -/
def Takes (op : MachineOp α) (list : Option UInt32) : Prop :=
  ∀ s a t, Op.Yields op s a t → TookList list s t

private theorem takes_resetList (list : Option UInt32) : Takes (resetList list) list := by
  intro s a t ran
  have stepped := Op.yields_step.1 ran
  rcases emptied : s.machine.lists.reset (list.map UInt32.toNat) with e | lists <;>
    rw [emptied] at stepped <;> cases stepped
  exact ⟨emptied, rfl⟩

private theorem takes_after {first : MachineOp α} {next : α → MachineOp β} (same : Op.Moves first SameLists)
    (takes : ∀ a, Takes (next a) list) : Takes (first >>= next) list := by
  intro s b t ran
  obtain ⟨a, u, ran, rest⟩ := Op.yields_bind.1 ran
  have kept := same.yields ran
  have took := takes a u b t rest
  exact ⟨kept.lists ▸ took.emptied, took.config.trans kept.config⟩

private theorem takes_before {first : MachineOp α} {next : α → MachineOp β} (takes : Takes first list)
    (same : ∀ a, Op.Moves (next a) SameLists) : Takes (first >>= next) list := by
  intro s b t ran
  obtain ⟨a, u, ran, rest⟩ := Op.yields_bind.1 ran
  have took := takes s a u ran
  have kept := (same a).yields rest
  exact ⟨kept.lists ▸ took.emptied, kept.config.trans took.config⟩

private theorem takes_ite {c : Prop} [Decidable c] {yes no : MachineOp α} (left : Takes yes list)
    (right : Takes no list) : Takes (if c then yes else no) list := by
  split
  · exact left
  · exact right

/-- What an instruction on a list leaves behind: nothing of a copy of the kernel context. -/
def Settles (i : Instruction) (list : Option UInt32) (before after : Session) : Prop :=
  if idle before.context i then SameLists before after else TookList list before after

private theorem idle_transfer {c : Context} {t : Transfer} {entry : ObjectEntry} (kind : TransferKind)
    (known : c.object t.object.toNat = .ok entry) :
    idle c (.transfer kind t) = entry.object.isKernelContext := by
  unfold Context.object at known
  rcases found : c.objects[t.object.toNat]? with _ | held <;> rw [found] at known <;> cases known
  simp [idle, found]

/-- A transfer looks at its object first. -/
theorem settles_transfer {transfer : Transfer} {a b : α} {body : Session → ObjectEntry → MachineOp α}
    (kind : TransferKind) (takes : ∀ s entry, Takes (body s entry) transfer.list)
    (ran : Op.Yields (do
      let s ← Op.get
      let entry ← Op.ofExcept (s.context.object transfer.object.toNat)
      if entry.object.isKernelContext then pure a else body s entry) s b t) :
    Settles (.transfer kind transfer) transfer.list s t := by
  obtain ⟨_, _, looked, ran⟩ := Op.yields_bind.1 ran
  obtain ⟨rfl, rfl⟩ := Op.yields_get.1 looked
  obtain ⟨entry, _, found, ran⟩ := Op.yields_bind.1 ran
  obtain ⟨known, rfl⟩ := Op.yields_ofExcept.1 found
  unfold Settles
  rw [idle_transfer kind known]
  split at ran
  · next kernelContext =>
    rw [if_pos kernelContext, ← (Op.yields_pure.1 ran).2]
    exact Op.Transition.refl s
  · next ordinary =>
    rw [if_neg ordinary]
    exact takes _ _ _ _ _ ran

section Taken

variable {take : MachineOp (List EventId)} (taken : Op.Moves take SameLists)
include taken

private theorem settles_copyIn {transfer : Transfer} {once : Bool} {a : Unit} (kind : TransferKind)
    (ran : Op.Yields (copyInWith take transfer once) s a t) :
    Settles (.transfer kind transfer) transfer.list s t := by
  refine settles_transfer kind (fun s entry => ?_) ran
  refine takes_after (Op.moves_ofExcept _) fun buffer => ?_
  refine takes_after (Op.moves_ofExcept _) fun binding => ?_
  refine takes_ite (takes_resetList _) ?_
  refine takes_after (Op.moves_ofExcept _) fun range => ?_
  refine takes_after taken fun wait => takes_after (moves_onDevice fun _ => trivial) fun events => ?_
  have rest : Takes (do
      resetList transfer.list
      profileTransfer events .copyIn .copyInBytes transfer.object.toNat range.size) transfer.list :=
    takes_before (takes_resetList _) fun _ => moves_profileTransfer _ _ _ _ _
  exact takes_ite (takes_after (moves_modifyBinding _ _) fun _ => rest) rest

private theorem settles_copyOut {transfer : Transfer} {blocking : Bool} {a : Option EventId}
    (kind : TransferKind) (ran : Op.Yields (copyOutWith take transfer blocking) s a t) :
    Settles (.transfer kind transfer) transfer.list s t := by
  refine settles_transfer kind (fun s entry => ?_) ran
  refine takes_after (Op.moves_ofExcept _) fun buffer => ?_
  refine takes_after (Op.moves_ofExcept _) fun range => ?_
  refine takes_after taken fun wait => takes_after (moves_onObject _ _ fun _ => trivial) fun event => ?_
  refine takes_before (takes_resetList _) fun _ => ?_
  exact Op.moves_bind (moves_profileTransfer _ _ _ _ _) fun _ => Op.moves_pure _

private theorem takes_dispatch (l : Launch) : Takes (dispatchWith take l) l.list := by
  refine takes_after (moves_installedCode l) fun code => takes_after Op.moves_get fun s => ?_
  refine takes_after (Op.moves_ofExcept _) fun task => takes_after (moves_setFrames _) fun _ => ?_
  refine takes_after (Op.moves_ofExcept _) fun bound => takes_after taken fun wait => ?_
  refine takes_after (moves_sendAtomics _) fun sent => ?_
  refine takes_after (Op.moves_attempt (moves_onDevice fun _ => trivial)) fun launched => ?_
  refine takes_after (moves_setFrames _) fun _ => ?_
  cases launched with
  | error e => exact fun _ _ _ ran => absurd ran Op.yields_fail
  | ok event => exact takes_before (takes_resetList _) fun _ => moves_measureLaunch task.id event

private theorem takes_barrier (list : Option UInt32) : Takes (barrierWith take list) list := by
  refine takes_after taken fun wait => takes_after (moves_onDevice fun _ => trivial) fun marker => ?_
  refine takes_after (Op.moves_emit _) fun _ => ?_
  exact takes_before (takes_resetList _) fun _ => Op.moves_pure _

end Taken

/-! ### The history goes on -/

/-- An instruction that takes over all that its list held starts the list again. -/
theorem Recorded.take (recorded : Recorded past s) (took : TookList list s t) {d : Deed}
    (consumes : ∀ other, d.consumes other = true ↔ list = some other)
    (consumer : ∀ list, d.instruction ≠ .addDependency list) : Recorded (d :: past) t where
  uses := by
    rw [took.config]
    exact recorded.uses
  sized := by
    unfold Sized
    rw [took.config, EventLists.capacity_reset took.emptied]
    exact recorded.sized
  holds := by
    intro other events held
    simp only [Deeds.pending, consumes, consumer, if_false]
    rcases EventLists.reset_ok_iff.1 took.emptied with ⟨unnamed, same⟩ | ⟨index, old, named, found, same⟩
    · have unnamed : list = none := Option.map_eq_none_iff.1 unnamed
      rw [same] at held
      rw [unnamed, if_neg nofun]
      exact recorded.holds other events held
    · obtain ⟨list, rfl, rfl⟩ := Option.map_eq_some_iff.1 named
      rw [same] at held
      split
      · next this =>
        cases this
        have within := (List.getElem?_eq_some_iff.1 found).1
        rw [List.getElem?_set_self within] at held
        exact (Option.some.inj held).symm
      · next another =>
        have apart : list.toNat ≠ other.toNat := fun same => another (by rw [UInt32.toNat_inj.1 same])
        rw [List.getElem?_set_ne apart] at held
        exact recorded.holds other events held

/-- An instruction that has nothing to do with lists. -/
theorem Recorded.skip (recorded : Recorded past s) (same : SameLists s t) {d : Deed}
    (consumes : ∀ list, d.consumes list = false) (consumer : ∀ list, d.instruction ≠ .addDependency list) :
    Recorded (d :: past) t := by
  obtain ⟨uses, sized, holds⟩ := recorded.same same
  refine ⟨uses, sized, ?_⟩
  intro list events held
  simp only [Deeds.pending, consumes, consumer, if_false]
  exact holds list events held

private theorem Recorded.settle (recorded : Recorded past s) {transfer : Transfer} {kind : TransferKind}
    {event : Option EventId} (settles : Settles (.transfer kind transfer) transfer.list s t) :
    Recorded (⟨.transfer kind transfer, idle s.context (.transfer kind transfer), event⟩ :: past) t := by
  unfold Settles at settles
  split at settles
  · next unused => exact recorded.skip settles (by simp [Deed.consumes, unused]) nofun
  · next used => exact recorded.take settles (by simp [Deed.consumes, used]) nofun

private theorem Recorded.append (recorded : Recorded past s)
    (ran : Op.Yields (appendLatest past list) s () t) {d : Deed}
    (appends : d.instruction = .addDependency list) : Recorded (d :: past) t := by
  have consumes (other : UInt32) : d.consumes other = false := by simp [Deed.consumes, appends]
  unfold appendLatest at ran
  split at ran
  · next event index latest =>
    obtain ⟨_, _, looked, ran⟩ := Op.yields_bind.1 ran
    obtain ⟨rfl, rfl⟩ := Op.yields_get.1 looked
    split at ran
    · exact absurd ran Op.yields_fail
    next within =>
    split at ran
    · exact absurd ran Op.yields_fail
    cases Op.yields_modify.1 ran
    refine ⟨recorded.uses, recorded.sized, ?_⟩
    intro other events held
    simp only [Deeds.pending, consumes, appends, latest, Bool.false_eq_true, if_false,
      Instruction.addDependency.injEq, Option.some.injEq, Option.toList_some]
    by_cases same : index = other
    · cases same
      rw [List.getElem?_set_self (Nat.not_le.1 within)] at held
      rw [if_pos rfl]
      exact (Option.some.inj held).symm
    · rw [List.getElem?_set_ne fun equal => same (UInt32.toNat_inj.1 equal)] at held
      rw [if_neg same]
      exact recorded.holds other events held
  · next neither =>
    cases (Op.yields_pure.1 ran).2
    refine ⟨recorded.uses, recorded.sized, ?_⟩
    intro other events held
    have old := recorded.holds other events held
    simp only [Deeds.pending, consumes, appends, Bool.false_eq_true, if_false,
      Instruction.addDependency.injEq]
    split
    · next named =>
      rcases latest : past.latest with _ | event
      · rw [old, Option.toList_none, List.append_nil]
      · exact absurd named (neither event other latest)
    · exact old

private theorem same_takeList (past : Deeds) (list : Option UInt32) : Op.Moves (takeList past list) SameLists := by
  cases list with
  | none => exact Op.moves_pure _
  | some list =>
    exact Op.moves_bind Op.moves_get fun s => Op.moves_ite (Op.moves_pure _) (Op.moves_fail _)

/-- An instruction and its place in the history: the lists hold again what the history says. -/
theorem recorded_replay (recorded : Recorded past s) {offset : Nat} {i : Instruction}
    {event : Option EventId} (ran : Op.Yields (replay past offset i) s event t) :
    Recorded (⟨i, idle s.context i, event⟩ :: past) t := by
  cases i with
  | transfer kind transfer =>
    have taken := same_takeList past transfer.list
    cases kind with
    | inOnce =>
      obtain ⟨_, _, copied, _, rfl⟩ := Op.yields_bind.1 ran
      exact recorded.settle (settles_copyIn taken _ copied)
    | inAlways =>
      obtain ⟨_, _, copied, _, rfl⟩ := Op.yields_bind.1 ran
      exact recorded.settle (settles_copyIn taken _ copied)
    | outAlways => exact recorded.settle (settles_copyOut taken _ ran)
    | outBlocking =>
      obtain ⟨_, _, copied, _, rfl⟩ := Op.yields_bind.1 ran
      exact recorded.settle (settles_copyOut taken _ copied)
  | launch l =>
    obtain ⟨_, fit, compiled, dispatched⟩ := Op.yields_bind.1 ran
    obtain ⟨marker, launched, rfl⟩ := Op.yields_map.1 dispatched
    have took := takes_dispatch (same_takeList past l.list) l _ _ _ launched
    exact (recorded.same ((same_compile l).yields compiled)).take took (by simp [Deed.consumes]) nofun
  | barrier list =>
    obtain ⟨marker, passed, rfl⟩ := Op.yields_map.1 ran
    have took := takes_barrier (same_takeList past list) list _ _ _ passed
    exact recorded.take took (by simp [Deed.consumes]) nofun
  | addDependency list =>
    obtain ⟨_, _, appended, _, rfl⟩ := Op.yields_bind.1 ran
    exact recorded.append appended rfl
  | alloc batchSize objects =>
    obtain ⟨_, _, carried, _, rfl⟩ := Op.yields_bind.1 ran
    obtain ⟨_, _, done, _, rfl⟩ := Op.yields_bind.1 carried
    exact recorded.skip ((moves_alloc batchSize.toNat objects).yields done) (by simp [Deed.consumes]) nofun
  | dealloc object =>
    obtain ⟨_, _, carried, _, rfl⟩ := Op.yields_bind.1 ran
    obtain ⟨_, _, done, _, rfl⟩ := Op.yields_bind.1 carried
    exact recorded.skip ((moves_dealloc object.toNat).yields done) (by simp [Deed.consumes]) nofun
  | onDevice object =>
    obtain ⟨_, _, carried, _, rfl⟩ := Op.yields_bind.1 ran
    obtain ⟨_, _, done, _, rfl⟩ := Op.yields_bind.1 carried
    exact recorded.skip ((moves_keepOnDevice object.toNat).yields done) (by simp [Deed.consumes]) nofun
  | context device =>
    obtain ⟨_, _, failed, _⟩ := Op.yields_bind.1 ran
    exact absurd failed Op.yields_fail
  | beginPass =>
    obtain ⟨_, _, failed, _⟩ := Op.yields_bind.1 ran
    exact absurd failed Op.yields_fail
  | endPass =>
    cases (Op.yields_pure.1 ran).2
    exact recorded.skip (Op.Transition.refl s) (by simp [Deed.consumes]) nofun

private theorem stepEntry_recorded (recorded : Recorded past s) (entry : Entry) :
    stepEntry false past.latest entry s = (Deeds.latest <$> replayEntry past entry) s := by
  refine (runInstruction_recorded recorded entry.offset entry.instruction).trans ?_
  simp only [replayEntry, Op.map_eq_bind, Op.bind_assoc, Op.pure_bind, Op.get_bind]

private theorem recorded_replayEntry (recorded : Recorded past s) {entry : Entry} {now : Deeds}
    (ran : Op.Yields (replayEntry past entry) s now t) : Recorded now t := by
  obtain ⟨_, _, looked, carried⟩ := Op.yields_bind.1 ran
  obtain ⟨rfl, rfl⟩ := Op.yields_get.1 looked
  obtain ⟨event, _, replayed, noted⟩ := Op.yields_bind.1 carried
  obtain ⟨rfl, rfl⟩ := Op.yields_pure.1 noted
  exact recorded_replay recorded replayed

/-! ### Whole passes -/

/-- The lists are empty when a pass starts, whatever an earlier one left in them. -/
theorem recorded_startPass (uses : s.machine.config.useDependencies = true) (sized : s.machine.Sized)
    (ran : Op.Yields startPass s () t) : Recorded [] t := by
  obtain ⟨_, u, emptied, synced⟩ := Op.yields_bind.1 ran
  refine Recorded.same ?_ (same_syncEpoch.yields synced)
  cases Op.yields_modify.1 emptied
  refine ⟨uses, sized, ?_⟩
  intro list events held
  simp only [EventLists.resetAll, List.getElem?_map, Option.map_eq_some_iff] at held
  obtain ⟨_, _, rfl⟩ := held
  rfl

private theorem recorded_passing (uses : s.machine.config.useDependencies = true) (sized : s.machine.Sized)
    (passing : Passing s past t) : Recorded past t := by
  induction passing with
  | start ran => exact recorded_startPass uses sized ran
  | step _ entry ran recorded => exact recorded_replayEntry recorded ran
  -- The lists are the machine's own: nothing done elsewhere reaches them.
  | elsewhere _ same recorded => exact recorded.same ⟨by rw [same], by rw [same]⟩

private theorem runEntries_recorded (recorded : Recorded past s) (stop : ScanStop) (entries : List Entry) :
    runEntries false stop past.latest entries s = replayEntries stop past entries s := by
  -- The remembered event moves on with the history, so both vary along the entries.
  induction entries generalizing past s with
  | nil => cases stop <;> rfl
  | cons entry rest ih =>
    refine recorded_bind recorded (moves_traceEntry false entry) fun _ s recorded => ?_
    split
    · rfl
    rw [Op.bind_congr_at (stepEntry_recorded recorded entry) fun _ _ _ => rfl, Op.map_eq_bind, Op.bind_assoc]
    refine Op.bind_congr_at rfl fun now t ran => ?_
    rw [Op.pure_bind]
    exact ih (recorded_replayEntry recorded ran)

private theorem pass_recorded (uses : s.machine.config.useDependencies = true) (sized : s.machine.Sized) :
    pass false s = replayPass s :=
  Op.bind_congr_at rfl fun _ _ started => runEntries_recorded (recorded_startPass uses sized started) _ _

/-- A dependency fails to be added when there is an event and no room for it. -/
theorem appendLatest_fails_iff : (∃ e, (appendLatest past list s).result = .error e) ↔
    ∃ event index, past.latest = some event ∧ list = some index ∧
      (s.machine.lists.size ≤ index.toNat ∨
        s.machine.config.maxEvents ≤ (past.pending index).length) := by
  unfold appendLatest
  rcases past.latest with _ | event
  · simp
  rcases list with _ | index
  · simp
  simp only [Op.get_bind, Option.some.injEq, exists_eq_left', exists_and_left]
  by_cases outside : s.machine.lists.size ≤ index.toNat
  · simp [outside, Op.fail]
  by_cases full : s.machine.config.maxEvents ≤ (past.pending index).length
  · simp [outside, full, Op.fail]
  · simp [outside, full, Session.modifyMachine, Op.modify]

end Offload.Machine

namespace Offload.Workspace

variable {w : Workspace} {seat index : Nat} {s : Session}

/-- However a workspace came about, a run with dependencies does what the history of its own pass says:
at every point an instruction waits for the events that are pending and a dependency is added for the
latest event, and that fails only for want of room. -/
theorem waits_recorded (reachable : w.Reachable) (present : w.session? seat = some (index, s))
    (uses : s.machine.config.useDependencies = true) :
    (∀ past t, Machine.Passing s past t →
      (∀ entry, Machine.stepEntry false past.latest entry t =
        (Deeds.latest <$> Machine.replayEntry past entry) t) ∧
      ∀ list, (∃ e, (Machine.addDependency past.latest list t).result = .error e) ↔
        ∃ event index, past.latest = some event ∧ list = some index ∧
          (t.machine.lists.size ≤ index.toNat ∨
            t.machine.config.maxEvents ≤ (past.pending index).length)) ∧
      Machine.pass false s = Machine.replayPass s ∧
      (s.context.memory.exceeded = false → s.machine.config.virtualDevice = false →
        (Machine.execute .run s).result = (Machine.replayPass s).result ∧
          (Machine.execute .run s).state = (Machine.concludePass false (Machine.replayPass s).result
            (Machine.replayPass s).state).state) := by
  have sized := sized_of_reachable reachable present
  have same := Machine.pass_recorded uses sized
  refine ⟨?_, same, ?_⟩
  · intro past t passing
    have recorded := Machine.recorded_passing uses sized passing
    refine ⟨fun entry => Machine.stepEntry_recorded recorded entry, fun list => ?_⟩
    rw [Machine.addDependency_recorded recorded]
    exact Machine.appendLatest_fails_iff
  · intro within real
    have executed := Machine.execute_within .run within
    rwa [real, show (decide (Mode.run = .warmup) || false) = false from rfl, same] at executed

/-- A machine after a run that failed at its last instruction, with an event still in the list. Its launch has
atomics, and it waits for the copy in front of it. -/
def leftBehind : Workspace :=
  let copy : Transfer := { object := 0, list := none, offset := 0, batchSize := 0 }
  let launch : Launch :=
    { wrapper := 0, task := 0, list := some 0, offset := 0, batchThreads := 0, args := [.reference 1] }
  let program := Assembly.bytes
    { instructions :=
        [.context 0, .beginPass, .alloc 0 [0], .transfer .outAlways copy, .addDependency (some 0), .launch launch,
          .addDependency (some 0), .transfer .inAlways { copy with list := some 0 }, .addDependency (some 0),
          .beginPass] }
  let start : Workspace :=
    { context :=
        { name := "left behind"
          objects := [{ object := .scalar (.i32 7) }, { object := .scalar (.i32 8), atomic := true }]
          tasks := [{ id := "t", kernel := "noop" }] }
      devices := [Device.registerKernel {} "noop" fun _ => .done ()] }
  let built := (start.build 0 program {}).state
  (built.onMachine 0 (MachineCommand.execute .run).run).state

private theorem leftBehind_reachable : leftBehind.Reachable := by
  refine .step ?_ (.machine _ 0 (.execute .run))
  refine .step ?_ (.build _ 0 _ _)
  exact .start _ _ rfl

/-- In the next run the launch waits for the copy before it and for the write of its atomics, and the copy to the
device for the launch. Neither waits for the old event. -/
theorem leftBehind_recorded : ∃ s, leftBehind.session? 0 = some (0, s) ∧
    s.machine.config.useDependencies = true ∧ s.machine.lists.lists = [[3]] ∧
    (Machine.execute .run s).result = (Machine.replayPass s).result ∧
    (Machine.replayPass s).state.device.events.records.get? 7 = some ⟨.launch, true, [5, 6]⟩ ∧
    (Machine.replayPass s).state.device.events.records.get? 8 = some ⟨.write, true, [7]⟩ := by
  have settings : (leftBehind.session? 0).map (fun seated =>
      (seated.1, seated.2.machine.config.useDependencies, seated.2.context.memory.exceeded,
        seated.2.machine.config.virtualDevice)) = some (0, true, false, false) := by decide +kernel
  have events : (leftBehind.session? 0).map (fun seated =>
      (seated.2.machine.lists.lists, (Machine.replayPass seated.2).state.device.events.records.get? 7,
        (Machine.replayPass seated.2).state.device.events.records.get? 8)) =
      some ([[3]], some ⟨.launch, true, [5, 6]⟩, some ⟨.write, true, [7]⟩) := by decide +kernel
  obtain ⟨⟨index, s⟩, present, same⟩ := Option.map_eq_some_iff.1 settings
  rw [present] at events
  simp only [Prod.mk.injEq, Option.map_some, Option.some.injEq] at same events
  obtain ⟨rfl, uses, within, real⟩ := same
  obtain ⟨lists, launched, copied⟩ := events
  have exact := waits_recorded leftBehind_reachable present uses
  exact ⟨s, present, uses, lists, (exact.2.2 within real).1, launched, copied⟩

end Offload.Workspace
