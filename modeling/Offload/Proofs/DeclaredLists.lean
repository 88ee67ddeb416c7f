import Offload.Proofs.Contracts
import Offload.Proofs.History

/-! Machines that have every event list their program names. Nothing a machine does changes its program or
the number of its lists, so where the header has declared enough of them no command ever fails for want
of one, whatever else it may fail for. -/
namespace Offload

/-- The error says that there is no such event list. -/
def MachineError.MissesList (e : MachineError) : Prop :=
  ∃ index count, e = .malformed (.listOutOfRange index count)

/-- Every event list that the instructions of a program name is below a bound. -/
def Cursor.NamesBelow (program : Cursor) (lists : Nat) : Prop :=
  ∀ entry ∈ program.scan.entries, ∀ list, entry.instruction.eventList = some list → list.toNat < lists

namespace Machine

variable {α β : Type} {program : Cursor} {lists : Nat} {s : Session}

/-- The machine has this program and this number of event lists. -/
structure Declares (program : Cursor) (lists : Nat) (s : Session) : Prop where
  program : s.machine.program = program
  size : s.machine.lists.size = lists

/-- The program and the number of event lists stay what they are. -/
def KeepsLists (program : Cursor) (lists : Nat) (s t : Session) : Prop :=
  Declares program lists s → Declares program lists t

instance : Op.Transition (KeepsLists program lists) where
  refl _ := id
  trans first second := second ∘ first

/-- No event list is missing. -/
def Harmless (r : Except MachineError α) : Prop :=
  ∀ e, r = .error e → ¬ e.MissesList

/-- On a machine with this program and so many lists the operation misses none, and the next one finds the
machine with the same program and as many lists. -/
def Covered (program : Cursor) (lists : Nat) (op : MachineOp α) : Prop :=
  ∀ s, Declares program lists s →
    Op.Serves op (KeepsLists program lists) (fun _ e => ¬ e.MissesList) (fun _ _ => True) s

/-! ### Sequences -/

private theorem covered_bind {first : MachineOp α} {next : α → MachineOp β} (head : Covered program lists first)
    (tail : ∀ a, Covered program lists (next a)) : Covered program lists (first >>= next) :=
  fun s declares => Op.serves_bind (head s declares) fun a t kept _ => tail a t (kept declares)

private theorem covered_get {next : Session → MachineOp α}
    (tail : ∀ s, Declares program lists s → Covered program lists (next s)) :
    Covered program lists (Op.get >>= next) :=
  fun s declares => Op.serves_get (tail s declares s declares)

private theorem covered_pure (a : α) : Covered program lists (pure a) :=
  fun _ _ => Op.serves_pure trivial

private theorem covered_map {f : α → β} {op : MachineOp α} (covered : Covered program lists op) :
    Covered program lists (f <$> op) :=
  covered_bind covered fun _ => covered_pure _

private theorem covered_emit (event : LogEvent) : Covered program lists (Op.emit event) :=
  fun _ _ => Op.serves_emit trivial

private theorem covered_fail {e : MachineError} (harmless : ¬ e.MissesList) :
    Covered program lists (Op.fail e : MachineOp α) :=
  fun _ _ => Op.serves_fail harmless

private theorem covered_ofExcept {r : Except MachineError α} (harmless : Harmless r) :
    Covered program lists (Op.ofExcept r) :=
  fun _ _ => Op.serves_ofExcept harmless fun _ _ => trivial

private theorem covered_ite {c : Prop} [Decidable c] {yes no : MachineOp α} (left : Covered program lists yes)
    (right : Covered program lists no) : Covered program lists (if c then yes else no) :=
  fun s declares => Op.serves_ite (fun _ => left s declares) fun _ => right s declares

private theorem covered_modifyMachine {change : Machine → Machine} (same : ∀ m, (change m).program = m.program)
    (size : ∀ m, (change m).lists.size = m.lists.size) :
    Covered program lists (Session.modifyMachine change) := by
  intro s declares
  refine Op.serves_modify (fun _ => ⟨?_, ?_⟩) trivial
  · exact (same _).trans declares.program
  · exact (size _).trans declares.size

private theorem covered_modifyMemory (change : MemoryBudget → MemoryBudget) :
    Covered program lists (Session.modifyMemory change) :=
  fun _ declares => Op.serves_modify (fun _ => ⟨declares.program, declares.size⟩) trivial

/-- The errors of a device are about something else. -/
theorem harmless_ofDevice (failure : DeviceError) : ¬ (MachineError.ofDevice failure).MissesList := by
  rintro ⟨index, count, same⟩
  cases failure <;> cases same

/-- Work on anything but the machine itself. -/
theorem covered_onPart {σ : Type} {view : Session → σ} {update : σ → Session → Session}
    (op : Op DeviceError σ α) (same : ∀ part s, (update part s).machine = s.machine) :
    Covered program lists ((op.mapError MachineError.ofDevice).onPart view update) := by
  intro s declares
  have anything : Op.Serves op (fun _ _ => True) (fun _ _ => True) (fun _ _ => True) (view s) :=
    ⟨trivial, fun _ _ => trivial, fun _ _ => trivial⟩
  refine Op.serves_onPart (F := fun _ e => ¬ e.MissesList)
    (Op.serves_mapError anything fun e _ => harmless_ofDevice e) ?_ (fun _ harmless => harmless)
    fun _ _ _ => trivial
  intro part _ _
  exact ⟨by rw [same, declares.program], by rw [same, declares.size]⟩

private theorem covered_onDevice (op : DeviceOp α) : Covered program lists (Session.onDevice op) :=
  covered_onPart op fun _ _ => rfl

private theorem covered_onObject (index : Nat) (object : HostObject) (op : Device.CopyOut α) :
    Covered program lists (onObject index object op) :=
  covered_onPart op fun _ _ => rfl

/-- A failure that is handed on as a value may be raised later. -/
theorem covered_attempt_bind {op : MachineOp α} {next : Except MachineError α → MachineOp β}
    (covered : Covered program lists op) (tail : ∀ r, Harmless r → Covered program lists (next r)) :
    Covered program lists (Op.attempt op >>= next) :=
  fun s declares => Op.serves_bind (Op.serves_attempt (covered s declares)) fun r t kept judged =>
    tail r judged.1 t (kept declares)

/-! ### Lookups -/

private theorem harmless_ok (a : α) : Harmless (.ok a) := nofun

private theorem harmless_bind {first : Except MachineError α} {next : α → Except MachineError β}
    (head : Harmless first) (tail : ∀ a, Harmless (next a)) : Harmless (first >>= next) := by
  cases first with
  | error e => exact fun _ failed => head _ (by cases failed; rfl)
  | ok a => exact tail a

/-- To look an object up asks for no list. -/
theorem harmless_object (c : Context) (index : Nat) : Harmless (c.object index) := by
  rintro _ failed ⟨_, _, rfl⟩
  unfold Context.object at failed
  split at failed <;> cases failed

private theorem harmless_constant (c : Context) (index : Nat) : Harmless (c.constant index) := by
  rintro _ failed ⟨_, _, rfl⟩
  unfold Context.constant at failed
  split at failed <;> cases failed

/-- To look a task up asks for no list. -/
theorem harmless_task (c : Context) (index : Nat) : Harmless (c.task index) := by
  rintro _ failed ⟨_, _, rfl⟩
  unfold Context.task at failed
  split at failed <;> cases failed

/-- To look a binding up asks for no list. -/
theorem harmless_get (bs : Bindings) (object : Nat) : Harmless (bs.get object) := by
  rintro _ failed ⟨_, _, rfl⟩
  unfold Bindings.get at failed
  split at failed <;> cases failed

theorem harmless_boundBuffer (m : Machine) (use : BufferUse) (object : Nat) :
    Harmless (m.boundBuffer use object) := by
  refine harmless_bind (harmless_get _ _) fun binding => ?_
  rintro _ failed ⟨_, _, rfl⟩
  split at failed <;> cases failed

private theorem harmless_check (b : MemoryBudget) (requested : Nat) : Harmless (b.check requested) := by
  rintro _ failed ⟨_, _, rfl⟩
  unfold MemoryBudget.check at failed
  split at failed
  · cases failed
  · split at failed <;> cases failed

theorem harmless_transferRange (t : Transfer) (size : Nat) : Harmless (transferRange t size) := by
  rintro _ failed ⟨_, _, rfl⟩
  unfold transferRange at failed
  split at failed
  · cases failed
  · split at failed <;> cases failed

/-- To plan an allocation asks for no list. -/
theorem harmless_bufferRequests (c : Context) (bs : Bindings) (batchSize : Nat) (objects : List UInt32)
    (requests : List BufferRequest) : Harmless (bufferRequests c bs batchSize objects requests) := by
  induction objects generalizing requests with
  | nil => exact harmless_ok _
  | cons index rest ih =>
    refine harmless_bind (harmless_object _ _) fun entry => ?_
    refine harmless_bind (harmless_get _ _) fun binding => ?_
    split
    · exact ih _
    · exact ih _

private theorem harmless_atomicValues (object : HostObject) (index : Nat) : Harmless (atomicValues object index) := by
  rintro _ failed ⟨_, _, rfl⟩
  unfold atomicValues at failed
  split at failed
  · split at failed <;> cases failed
  · cases failed
  · cases failed

/-- To bind arguments asks for no list. -/
theorem harmless_bindArgs (c : Context) (m : Machine) (args : List LaunchArg) (frame : List KernelArg)
    (atomics : List Int32) : Harmless (bindArgs c m args frame atomics) := by
  induction args generalizing frame atomics with
  | nil => exact harmless_ok _
  | cons arg rest ih =>
    cases arg with
    | constant index => exact harmless_bind (harmless_constant _ _) fun _ => ih _ _
    | reference index =>
      refine harmless_bind (harmless_object _ _) fun entry => ?_
      split
      · exact ih _ _
      split
      · exact harmless_bind (harmless_atomicValues _ _) fun _ => ih _ _
      · exact harmless_bind (harmless_boundBuffer _ _ _) fun _ => ih _ _

private theorem harmless_forTask {e : MachineError} (harmless : ¬ e.MissesList) (task : String) :
    ¬ (e.forTask task).MissesList := by
  unfold MachineError.forTask
  split
  · rintro ⟨_, _, same⟩
    cases same
  · exact harmless

/-! ### Event lists -/

/-- A list that is named is one of the machine's. -/
def Inside (lists : Nat) (list : Option UInt32) : Prop :=
  ∀ index, list = some index → index.toNat < lists

private theorem harmless_list (declares : Declares program lists s) {index : Nat} (inside : index < lists) :
    Harmless (s.machine.lists.get index) := by
  intro e failed
  rw [← declares.size] at inside
  rw [EventLists.get_ok_iff.2 (List.getElem?_eq_getElem inside)] at failed
  cases failed

private theorem covered_waitList {list : Option UInt32} (inside : Inside lists list) :
    Covered program lists (waitList list) := by
  refine covered_get fun s declares => covered_ofExcept ?_
  cases list with
  | none => exact harmless_ok _
  | some index =>
    show Harmless (if s.machine.config.useDependencies then s.machine.lists.get index.toNat else .ok [])
    split
    · exact harmless_list declares (inside index rfl)
    · exact harmless_ok _

/-- A change of the lists that leaves their number as it was. -/
theorem covered_setLists {change : Session → Except MachineError EventLists}
    (harmless : ∀ s, Declares program lists s → Harmless (change s))
    (size : ∀ s after, change s = .ok after → after.size = s.machine.lists.size) :
    Covered program lists (Op.step fun s => (change s).map fun lists =>
      ((), { s with machine := { s.machine with lists } })) := by
  intro s declares
  refine Op.serves_step (fun e failed => ?_) fun _ t ran => ?_
  · rcases changed : change s with e' | after <;> rw [changed] at failed <;> cases failed
    exact harmless s declares e changed
  · rcases changed : change s with e | after <;> rw [changed] at ran <;> cases ran
    exact ⟨fun _ => ⟨declares.program, (size s after changed).trans declares.size⟩, trivial⟩

private theorem covered_resetList {list : Option UInt32} (inside : Inside lists list) :
    Covered program lists (resetList list) := by
  refine covered_setLists (fun s declares => ?_) fun s after ran => ?_
  · cases list with
    | none => exact harmless_ok _
    | some index => exact harmless_bind (harmless_list declares (inside index rfl)) fun _ => harmless_ok _
  · obtain ⟨_, rfl⟩ | ⟨_, _, _, _, rfl⟩ := EventLists.reset_ok_iff.1 ran
    · rfl
    · exact List.length_set

private theorem covered_addDependency (last : Option EventId) {list : Option UInt32} (inside : Inside lists list) :
    Covered program lists (addDependency last list) := by
  refine covered_get fun s _ => ?_
  split
  · next event index _ =>
    refine covered_setLists (fun s declares => ?_) fun s after ran => ?_
    · refine harmless_bind (harmless_list declares (inside index rfl)) fun events => ?_
      rintro _ failed ⟨_, _, rfl⟩
      split at failed <;> cases failed
    · obtain ⟨events, _, _, rfl⟩ := EventLists.push_ok_iff.1 ran
      exact List.length_set
  · exact covered_pure _

/-! ### Instructions -/

private theorem covered_modifyBinding (object : Nat) (change : Binding → Binding) :
    Covered program lists (Session.modifyBinding object change) :=
  covered_modifyMachine (fun _ => rfl) fun _ => rfl

private theorem covered_modifyProfiler (change : Profiler → Profiler) :
    Covered program lists (Session.modifyProfiler change) :=
  covered_modifyMachine (fun _ => rfl) fun _ => rfl

private theorem covered_addMetric (kind : MetricKind) (key : String) (value : Nat) :
    Covered program lists (addMetric kind key value) := covered_modifyProfiler _

private theorem covered_addTimer (kind : TimerKind) (nanoseconds : Nat) :
    Covered program lists (addTimer kind nanoseconds) := covered_modifyProfiler _

private theorem covered_setProfiler (profiler : Profiler) : Covered program lists (setProfiler profiler) :=
  covered_modifyProfiler _

private theorem covered_setFinished (finished : Bool) :
    Covered program lists (Session.modifyMachine fun m => { m with finishedWarmup := finished }) :=
  covered_modifyMachine (fun _ => rfl) fun _ => rfl

private theorem covered_bindAll (pairs : List (BufferRequest × DeviceBuffer)) :
    Covered program lists (bindAll pairs) := by
  induction pairs with
  | nil => exact covered_pure _
  | cons pair rest ih =>
    refine covered_bind (covered_modifyBinding _ _) fun _ => ?_
    exact covered_bind (covered_addMetric _ _ _) fun _ => ih

private theorem covered_alloc (batchSize : Nat) (objects : List UInt32) :
    Covered program lists (alloc batchSize objects) := by
  refine covered_get fun s _ => ?_
  refine covered_bind (covered_ofExcept (harmless_bufferRequests _ _ _ _ _)) fun requests => ?_
  refine covered_ite (covered_pure _) ?_
  refine covered_bind (covered_ofExcept (harmless_check _ _)) fun _ => ?_
  refine covered_bind (covered_onDevice _) fun buffers => ?_
  refine covered_bind (covered_modifyMemory _) fun _ => ?_
  exact covered_bind (covered_bindAll _) fun _ => covered_emit _

private theorem covered_dealloc (object : Nat) : Covered program lists (dealloc object) := by
  refine covered_get fun s _ => ?_
  refine covered_bind (covered_ofExcept (harmless_object _ _)) fun entry => ?_
  refine covered_bind (covered_ofExcept (harmless_get _ _)) fun binding => ?_
  split
  · exact covered_ite (covered_bind (covered_pure _) fun _ => covered_pure _)
      (covered_bind (covered_emit _) fun _ => covered_pure _)
  · refine covered_bind (covered_onDevice _) fun freed => ?_
    refine covered_bind (covered_modifyBinding _ _) fun _ => ?_
    refine covered_bind (covered_modifyMemory _) fun _ => ?_
    exact covered_bind (covered_emit _) fun _ => covered_pure _

private theorem covered_deallocAll (objects : List Nat) : Covered program lists (deallocAll objects) := by
  induction objects with
  | nil => exact covered_pure _
  | cons object rest ih =>
    exact covered_bind (covered_dealloc _) fun _ => covered_bind ih fun _ => covered_pure _

private theorem covered_addEventTimes (timer : TimerKind) (events : List EventId) :
    Covered program lists (addEventTimes timer events) := by
  induction events with
  | nil => exact covered_pure _
  | cons event rest ih =>
    refine covered_bind (covered_onDevice _) fun profile => ?_
    refine covered_bind (covered_addTimer _ _) fun _ => ?_
    exact covered_bind (covered_addTimer _ _) fun _ => ih

private theorem covered_profileTransfer (events : List EventId) (timer : TimerKind) (metric : MetricKind)
    (object bytes : Nat) : Covered program lists (profileTransfer events timer metric object bytes) := by
  refine covered_get fun s _ => covered_ite ?_ (covered_pure _)
  refine covered_bind (covered_onDevice _) fun _ => ?_
  exact covered_bind (covered_addEventTimes _ _) fun _ => covered_addMetric _ _ _

private theorem covered_transferIn {t : Transfer} (inside : Inside lists t.list) (once : Bool) :
    Covered program lists (transferIn t once) := by
  refine covered_get fun s _ => ?_
  refine covered_bind (covered_ofExcept (harmless_object _ _)) fun entry => ?_
  refine covered_ite (covered_pure _) ?_
  refine covered_bind (covered_ofExcept (harmless_boundBuffer _ _ _)) fun buffer => ?_
  refine covered_bind (covered_ofExcept (harmless_get _ _)) fun binding => ?_
  refine covered_ite (covered_resetList inside) ?_
  refine covered_bind (covered_ofExcept (harmless_transferRange _ _)) fun range => ?_
  refine covered_bind (covered_waitList inside) fun wait => ?_
  refine covered_bind (covered_onDevice _) fun events => ?_
  have rest : Covered program lists (do
      resetList t.list
      profileTransfer events .copyIn .copyInBytes t.object.toNat range.size) :=
    covered_bind (covered_resetList inside) fun _ => covered_profileTransfer _ _ _ _ _
  exact covered_ite (covered_bind (covered_modifyBinding _ _) fun _ => rest) rest

private theorem covered_transferOut {t : Transfer} (inside : Inside lists t.list) (blocking : Bool) :
    Covered program lists (transferOut t blocking) := by
  refine covered_get fun s _ => ?_
  refine covered_bind (covered_ofExcept (harmless_object _ _)) fun entry => ?_
  refine covered_ite (covered_pure _) ?_
  refine covered_bind (covered_ofExcept (harmless_boundBuffer _ _ _)) fun buffer => ?_
  refine covered_bind (covered_ofExcept (harmless_transferRange _ _)) fun range => ?_
  refine covered_bind (covered_waitList inside) fun wait => ?_
  refine covered_bind (covered_onObject _ _ _) fun event => ?_
  refine covered_bind (covered_resetList inside) fun _ => ?_
  exact covered_bind (covered_profileTransfer _ _ _ _ _) fun _ => covered_pure _

private theorem covered_forgetBuffers : Covered program lists forgetBuffers := by
  refine covered_get fun s _ => ?_
  refine covered_bind (covered_modifyMachine (fun _ => rfl) fun _ => rfl) fun _ => ?_
  exact covered_bind (covered_modifyMemory _) fun _ => covered_pure _

private theorem covered_clearCode : Covered program lists clearCode :=
  covered_modifyMachine (fun _ => rfl) fun _ => rfl

private theorem covered_syncEpoch : Covered program lists syncEpoch := by
  refine covered_get fun s _ => covered_ite (covered_pure _) ?_
  refine covered_ite (covered_fail ?_) ?_
  · rintro ⟨_, _, same⟩
    cases same
  refine covered_bind (covered_emit _) fun _ => ?_
  refine covered_bind covered_forgetBuffers fun _ => ?_
  refine covered_bind covered_clearCode fun _ => ?_
  exact covered_modifyMachine (fun _ => rfl) fun _ => rfl

private theorem covered_buildCode (index : Nat) (task : Task) : Covered program lists (buildCode index task) := by
  refine covered_get fun s _ => ?_
  refine covered_attempt_bind (covered_onDevice _) fun installed harmless => ?_
  refine covered_bind (covered_emit _) fun _ => ?_
  cases installed with
  | error e => exact covered_fail (harmless_forTask (harmless e rfl) _)
  | ok code =>
    exact covered_bind (covered_addTimer _ _) fun _ => covered_modifyMachine (fun _ => rfl) fun _ => rfl

/-- A compilation asks for no list. -/
theorem covered_compile (l : Launch) : Covered program lists (compile l) := by
  refine covered_bind covered_syncEpoch fun _ => covered_get fun s _ => ?_
  refine covered_bind (covered_ofExcept (harmless_task _ _)) fun task => ?_
  refine covered_bind (covered_modifyMachine (fun _ => rfl) fun _ => rfl) fun _ => ?_
  have built {due : Prop} [Decidable due] :
      Covered program lists (if due then buildCode l.task.toNat task else pure ()) :=
    covered_ite (covered_buildCode _ _) (covered_pure _)
  exact covered_ite (covered_bind (covered_emit _) fun _ => built) built

private theorem covered_bindLaunch {l : Launch} (inside : Inside lists l.list) :
    Covered program lists (bindLaunch l) := by
  refine covered_get fun s _ => ?_
  refine covered_bind (covered_ofExcept (harmless_task _ _)) fun task => ?_
  refine covered_bind (covered_modifyMachine (fun _ => rfl) fun _ => rfl) fun _ => ?_
  refine covered_bind (covered_ofExcept (harmless_bindArgs _ _ _ _ _)) fun bound => ?_
  refine covered_bind (covered_waitList inside) fun wait => ?_
  refine covered_bind (covered_ite (covered_pure _) ?_) fun _ => covered_pure _
  exact covered_bind (covered_onDevice _) fun _ => covered_pure _

private theorem covered_enqueue {l : Launch} (inside : Inside lists l.list) (code : Binary) (b : BoundLaunch) :
    Covered program lists (enqueue l code b) := by
  refine covered_attempt_bind (covered_onDevice _) fun launched harmless => ?_
  refine covered_bind (covered_modifyMachine (fun _ => rfl) fun _ => rfl) fun _ => ?_
  cases launched with
  | error e => exact covered_fail (harmless_forTask (harmless e rfl) _)
  | ok event =>
    refine covered_bind (covered_resetList inside) fun _ => covered_get fun s _ => ?_
    refine covered_ite ?_ (covered_pure _)
    refine covered_bind (covered_addTimer _ _) fun _ => ?_
    refine covered_bind (covered_onDevice _) fun _ => ?_
    refine covered_bind (covered_onDevice _) fun profile => ?_
    exact covered_bind (covered_addMetric _ _ _) fun _ => covered_pure _

private theorem covered_dispatch {l : Launch} (inside : Inside lists l.list) : Covered program lists (dispatch l) := by
  refine covered_bind (covered_get fun s _ => ?_) fun code => ?_
  · refine covered_bind (covered_ofExcept (harmless_task _ _)) fun task => covered_ofExcept ?_
    rintro _ failed ⟨_, _, rfl⟩
    split at failed <;> cases failed
  · exact covered_bind (covered_bindLaunch inside) fun b => covered_enqueue inside code b

private theorem covered_barrier {list : Option UInt32} (inside : Inside lists list) :
    Covered program lists (barrier list) := by
  refine covered_bind (covered_waitList inside) fun wait => ?_
  refine covered_bind (covered_onDevice _) fun marker => ?_
  refine covered_bind (covered_emit _) fun _ => ?_
  exact covered_bind (covered_resetList inside) fun _ => covered_pure _

private theorem covered_keepOnDevice (object : Nat) : Covered program lists (keepOnDevice object) :=
  covered_get fun _ _ => covered_bind (covered_ofExcept (harmless_object _ _)) fun _ => covered_emit _

/-- An instruction where it does not belong. -/
theorem covered_misplaced (opcode : Opcode) (offset : Nat) :
    Covered program lists (Op.fail (.malformed (.afterBegin opcode offset)) : MachineOp α) := by
  refine covered_fail ?_
  rintro ⟨_, _, same⟩
  cases same

/-- One instruction of a run or of a warmup. -/
theorem covered_stepEntry (warmup : Bool) (last : Option EventId) {entry : Entry}
    (inside : Inside lists entry.instruction.eventList) :
    Covered program lists (stepEntry warmup last entry) := by
  obtain ⟨offset, i⟩ := entry
  refine covered_ite (covered_bind ?_ fun _ => covered_pure _) ?_
  · cases i with
    | launch l => exact covered_compile l
    | context device => exact covered_misplaced _ _
    | beginPass => exact covered_misplaced _ _
    | _ => exact covered_pure _
  cases i with
  | alloc batchSize objects => exact covered_bind (covered_alloc _ _) fun _ => covered_pure _
  | dealloc object => exact covered_bind (covered_dealloc _) fun _ => covered_pure _
  | transfer kind t =>
    cases kind with
    | inOnce => exact covered_bind (covered_transferIn inside _) fun _ => covered_pure _
    | inAlways => exact covered_bind (covered_transferIn inside _) fun _ => covered_pure _
    | outAlways => exact covered_transferOut inside _
    | outBlocking => exact covered_bind (covered_transferOut inside _) fun _ => covered_pure _
  | launch l => exact covered_bind (covered_compile l) fun _ => covered_map (covered_dispatch inside)
  | addDependency list => exact covered_bind (covered_addDependency _ inside) fun _ => covered_pure _
  | onDevice object => exact covered_bind (covered_keepOnDevice _) fun _ => covered_pure _
  | barrier list => exact covered_map (covered_barrier inside)
  | context device => exact covered_misplaced _ _
  | beginPass => exact covered_misplaced _ _
  | endPass => exact covered_pure _

/-! ### Passes -/

private theorem covered_endPass (warmup : Bool) : Covered program lists (endPass warmup) := by
  refine covered_ite (covered_pure _) (covered_get fun s _ => ?_)
  have flushed (marker : Option EventId) : Covered program lists (do
      if s.machine.config.flushOnEnd then Session.onDevice Device.flush else pure ()
      pure marker : MachineOp (Option EventId)) :=
    covered_ite (covered_bind (covered_onDevice _) fun _ => covered_pure _) (covered_pure _)
  exact covered_ite (covered_bind (covered_map (covered_onDevice _)) flushed)
    (covered_bind (covered_pure _) flushed)

private theorem covered_traceEntry (warmup : Bool) (entry : Entry) : Covered program lists (traceEntry warmup entry) :=
  covered_get fun _ _ => covered_ite (covered_emit _) (covered_pure _)

private theorem covered_runEntries (warmup : Bool) (stop : ScanStop) (last : Option EventId) {entries : List Entry}
    (inside : ∀ entry ∈ entries, Inside lists entry.instruction.eventList) :
    Covered program lists (runEntries warmup stop last entries) := by
  induction entries generalizing last with
  | nil =>
    unfold runEntries
    split
    · refine covered_fail ?_
      rintro ⟨_, _, same⟩
      cases same
    · exact covered_endPass warmup
  | cons entry rest ih =>
    refine covered_bind (covered_traceEntry _ _) fun _ => covered_ite (covered_endPass _) ?_
    refine covered_bind (covered_stepEntry _ _ (inside entry (List.mem_cons_self ..))) fun last => ?_
    exact ih last fun later member => inside later (List.mem_cons_of_mem _ member)

private theorem covered_startPass : Covered program lists startPass :=
  covered_bind (covered_modifyMachine (fun _ => rfl) fun _ => List.length_map _) fun _ => covered_syncEpoch

private theorem covered_concludePass (warmup : Bool) (result : Except MachineError (Option EventId)) :
    Covered program lists (concludePass warmup result) := by
  cases result with
  | error e => exact covered_emit _
  | ok marker =>
    refine covered_bind (covered_modifyMachine (fun _ => rfl) fun _ => rfl) fun _ => ?_
    exact covered_get fun _ _ => covered_emit _

private theorem covered_rebuildChanged (schedule : GridSchedule) (index : Nat) (tasks : List Task) :
    Covered program lists (rebuildChanged schedule index tasks) := by
  induction tasks generalizing index with
  | nil => exact covered_pure _
  | cons task rest ih =>
    refine covered_get fun s _ => covered_ite (ih _) ?_
    refine covered_bind (covered_modifyMachine (fun _ => rfl) fun _ => rfl) fun _ => ?_
    exact covered_bind (covered_emit _) fun _ => ih _

section Program

variable (below : program.NamesBelow lists)
include below

/-- Passes of a covered program ask for declared lists only. -/
theorem covered_execute (mode : Mode) : Covered program lists (execute mode) := by
  refine covered_get fun s _ => covered_ite (covered_fail ?_) ?_
  · rintro ⟨_, _, same⟩
    cases same
  refine covered_bind (covered_emit _) fun _ => ?_
  refine covered_attempt_bind (covered_bind covered_startPass fun _ => covered_get fun t declares => ?_)
    fun result harmless => ?_
  · rw [declares.program]
    exact covered_runEntries _ _ _ below
  · refine covered_bind (covered_concludePass _ _) fun _ => ?_
    exact covered_bind (covered_emit _) fun _ => covered_ofExcept harmless

private theorem covered_warmup : Covered program lists warmup := by
  refine covered_bind (covered_setFinished _) fun _ => ?_
  exact covered_bind (covered_execute below _) fun _ => covered_setFinished _

/-- Whatever a machine is asked for, it has the lists for it. -/
theorem covered_command (command : MachineCommand) : Covered program lists command.run := by
  cases command with
  | execute mode => exact covered_map (covered_execute below mode)
  | warmup => exact covered_warmup below
  | freeDeviceMemory => exact covered_map (covered_get fun _ _ => covered_deallocAll _)
  | forgetBuffers => exact covered_map covered_forgetBuffers
  | setConfig config =>
    refine covered_bind (covered_modifyMachine (fun m => ?_) fun m => ?_) fun _ => ?_
    · split <;> rfl
    · split
      · rfl
      · exact List.length_replicate
    · cases config.memoryLimit with
      | none => exact covered_pure _
      | some limit => exact covered_modifyMemory _
  | setSchedule schedule =>
    refine covered_get fun s _ => covered_bind (covered_rebuildChanged _ _ _) fun _ => ?_
    exact covered_modifyMachine (fun _ => rfl) fun _ => rfl
  | setProfiler profiler => exact covered_setProfiler profiler
  | clearCode => exact covered_clearCode
  | startPass => exact covered_startPass
  | perform warm last index =>
    refine covered_get fun s declares => ?_
    rcases found : s.machine.program.scan.entries[index]? with _ | entry
    · exact covered_pure _
    rw [declares.program] at found
    exact covered_map (covered_stepEntry _ _ (below entry (List.mem_of_getElem? found)))
  | endPass warm => exact covered_map (covered_endPass warm)
  | concludePass warm result => exact covered_concludePass warm result
  | setFinished finished => exact covered_setFinished finished
  | dealloc object => exact covered_map (covered_dealloc object)

end Program
end Machine
end Offload
