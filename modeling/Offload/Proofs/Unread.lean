import Offload.Proofs.Alike

/-! What has no part in reading a program. No instruction looks at the cursor that its program is read with or
moves it, and none logs a line like those that tell what was decoded. -/
namespace Offload

/-- The line that tells of an instruction that was decoded. -/
def Entry.line (warmup : Bool) (entry : Entry) : LogEvent :=
  ⟨.debug, some entry.instruction.text, [("offset", entry.offset), ("warmup", warmup)]⟩

/-- Only such lines have these fields. -/
def LogEvent.isLine (event : LogEvent) : Bool :=
  event.fields.map Prod.fst = ["offset", "warmup"]

theorem Entry.isLine_line (warmup : Bool) (entry : Entry) : (entry.line warmup).isLine = true := rfl

/-- The lines in a log. -/
def Log.lines (log : Log) : Log :=
  log.filter LogEvent.isLine

namespace Op

variable {ε ε' σ τ α β : Type} {f : σ → σ}

/-- The operation does the same when the state is changed in a way that has nothing to do with it, and what
it logs is no line of a decoded instruction. -/
structure Aloof (f : σ → σ) (op : Op ε σ α) : Prop where
  apart : ∀ s, op (f s) = ⟨(op s).result, f (op s).state, (op s).log⟩
  silent : ∀ s, ∀ event ∈ (op s).log, event.isLine = false

private theorem Aloof.lines {op : Op ε σ α} (aloof : Aloof f op) (s : σ) : Log.lines (op s).log = [] :=
  List.filter_eq_nil_iff.2 fun event member => by simp [aloof.silent s event member]

private theorem aloof_pure (a : α) : Aloof f (pure a : Op ε σ α) :=
  ⟨fun _ => rfl, fun _ _ member => nomatch member⟩

theorem aloof_fail (e : ε) : Aloof f (fail e : Op ε σ α) :=
  ⟨fun _ => rfl, fun _ _ member => nomatch member⟩

private theorem aloof_emit {event : LogEvent} (silent : event.isLine = false) : Aloof f (emit event : Op ε σ Unit) := by
  refine ⟨fun _ => rfl, fun s other member => ?_⟩
  rw [List.mem_singleton.1 member]
  exact silent

private theorem aloof_ofExcept (r : Except ε α) : Aloof f (ofExcept r : Op ε σ α) := by
  cases r with
  | error e => exact aloof_fail e
  | ok a => exact aloof_pure a

private theorem aloof_modify {change : σ → σ} (apart : ∀ s, change (f s) = f (change s)) :
    Aloof f (modify change : Op ε σ Unit) := by
  refine ⟨fun s => ?_, fun _ _ member => nomatch member⟩
  simp only [modify, apart]

private theorem aloof_step {transition : σ → Except ε (α × σ)}
    (apart : ∀ s, transition (f s) = (transition s).map fun next => (next.1, f next.2)) :
    Aloof f (step transition) := by
  refine ⟨fun s => ?_, fun s event member => ?_⟩
  · simp only [step, apart]
    rcases transition s with e | ⟨a, t⟩ <;> rfl
  · simp only [step] at member
    rcases ran : transition s with e | ⟨a, t⟩ <;> rw [ran] at member <;> cases member

/-- A step is silent. -/
theorem silent_step (transition : σ → Except ε (α × σ)) : Aloof id (step transition) := by
  apply aloof_step
  intro s
  rw [id]
  cases transition s <;> rfl

private theorem aloof_bind {first : Op ε σ α} {next : α → Op ε σ β} (head : Aloof f first)
    (tail : ∀ a, Aloof f (next a)) :
    Aloof f (first >>= next) := by
  constructor
  · intro s
    rw [bind_run, bind_run, head.apart]
    rcases first s with ⟨e | a, t, log⟩
    · rfl
    · simp only [(tail a).apart]
  · intro s event member
    have began := head.silent s event
    rw [bind_run] at member
    rcases ran : first s with ⟨e | a, t, log⟩ <;> rw [ran] at began member
    · exact began member
    · rcases List.mem_append.1 member with early | late
      · exact began early
      · exact (tail a).silent t event late

private theorem aloof_map {g : α → β} {op : Op ε σ α} (aloof : Aloof f op) : Aloof f (g <$> op) :=
  aloof_bind aloof fun a => aloof_pure (g a)

private theorem aloof_ite {p : Prop} [Decidable p] {yes no : Op ε σ α} (left : Aloof f yes) (right : Aloof f no) :
    Aloof f (if p then yes else no) := by
  split
  · exact left
  · exact right

/-- A look at what is the same after the change. -/
theorem aloof_look {next : σ → Op ε σ α} (blind : ∀ s, next (f s) = next s) (tail : ∀ s, Aloof f (next s)) :
    Aloof f (get >>= next) := by
  refine ⟨fun s => ?_, fun s => (tail s).silent s⟩
  rw [get_bind, get_bind, blind]
  exact (tail s).apart s

private theorem aloof_attempt {op : Op ε σ α} (aloof : Aloof f op) : Aloof f (attempt op : Op ε' σ (Except ε α)) := by
  refine ⟨fun s => ?_, aloof.silent⟩
  simp only [attempt, aloof.apart]

private theorem aloof_mapError {convert : ε → ε'} {op : Op ε σ α} (aloof : Aloof f op) :
    Aloof f (mapError convert op) := by
  refine ⟨fun s => ?_, fun s => ?_⟩
  · simp only [mapError, aloof.apart]
    rcases op s with ⟨e | a, t, log⟩ <;> rfl
  · have silent := aloof.silent s
    simp only [mapError]
    rcases ran : op s with ⟨e | a, t, log⟩ <;> rw [ran] at silent <;> exact silent

/-- Work on a part that the change leaves alone. -/
theorem aloof_onPart {view : σ → τ} {update : τ → σ → σ} {op : Op ε τ α} (aloof : Aloof id op)
    (same : ∀ s, view (f s) = view s) (apart : ∀ part s, update part (f s) = f (update part s)) :
    Aloof f (onPart view update op) := by
  refine ⟨fun s => ?_, fun s => aloof.silent (view s)⟩
  simp only [onPart, same, apart]

end Op

namespace Device
open Op

variable {α : Type}

/-! ### Devices -/

/-- What a device does logs no such line. -/
abbrev Silent (op : DeviceOp α) : Prop :=
  Aloof id op

private theorem silent_modify (change : Device → Device) : Silent (Op.modify change : DeviceOp Unit) :=
  aloof_modify fun _ => rfl

private theorem silent_look {next : Device → DeviceOp α} (tail : ∀ d, Silent (next d)) : Silent (Op.get >>= next) :=
  aloof_look (fun _ => rfl) tail

private theorem silent_allocate (sizes : List Nat) : Silent (allocate sizes) := by
  apply aloof_bind (silent_step _)
  intro buffers
  apply aloof_bind (silent_modify _)
  intro _
  apply aloof_bind (aloof_emit rfl)
  intro _
  apply aloof_pure

private theorem silent_deallocate (buffer : DeviceBuffer) : Silent (deallocate buffer) := by
  apply aloof_bind (silent_step _)
  intro freed
  apply aloof_bind (silent_modify _)
  intro _
  apply aloof_pure

private theorem silent_streamIn (object : HostObject) (buffer : DeviceBuffer) (range : HostRange)
    (wait : List EventId) :
    Silent (streamIn object buffer range wait) := by
  apply aloof_bind (aloof_ofExcept _)
  intro data
  apply aloof_bind (silent_step _)
  intro _
  apply aloof_bind (silent_step _)
  intro event
  apply aloof_bind (silent_modify _)
  intro _
  apply aloof_bind (aloof_emit rfl)
  intro _
  apply aloof_pure

private theorem silent_waitEvents (events : List EventId) : Silent (waitEvents events) := by
  have drained : Silent (drainAll events) := by
    induction events with
    | nil => exact aloof_pure _
    | cons id rest ih => exact aloof_bind (silent_step _) fun _ => ih
  exact aloof_bind drained fun _ => silent_modify _

private theorem silent_streamOut (buffer : DeviceBuffer) (range : HostRange) (wait : List EventId) :
    Aloof id (streamOut buffer range wait) := by
  apply aloof_look (fun _ => rfl)
  intro s
  apply aloof_bind (aloof_ofExcept _)
  intro data
  apply aloof_bind (silent_step _)
  intro _
  refine aloof_onPart ?_ (fun _ => rfl) fun _ _ => rfl
  apply aloof_bind (silent_step _)
  intro event
  apply aloof_bind (silent_modify _)
  intro _
  apply aloof_bind (aloof_emit rfl)
  intro _
  apply aloof_pure

private theorem silent_streamOutBlocking (buffer : DeviceBuffer) (range : HostRange) (wait : List EventId) :
    Aloof id (streamOutBlocking buffer range wait) := by
  apply aloof_bind (silent_streamOut _ _ _)
  intro event
  apply aloof_bind (aloof_onPart (silent_waitEvents _) (fun _ => rfl) fun _ _ => rfl)
  intro _
  apply aloof_pure

private theorem silent_writeAtomics (values : List Int32) (wait : List EventId) :
    Silent (writeAtomics values wait) := by
  have renewed (size : Nat) : Silent (newAtomics size) :=
    aloof_bind (silent_step _) fun _ => aloof_bind (silent_modify _) fun _ => aloof_pure _
  have found (size : Nat) : Silent (atomicsBuffer size) := by
    apply silent_look
    intro d
    split
    · exact renewed size
    · split
      · apply aloof_pure
      · exact aloof_bind (silent_step _) fun _ => renewed size
  apply aloof_bind (found _)
  intro buffer
  apply aloof_bind (silent_step _)
  intro _
  apply aloof_bind (silent_step _)
  intro event
  apply aloof_bind (silent_modify _)
  intro _
  apply aloof_pure

private theorem silent_installCode (request : CompileRequest) : Silent (installCode request) := by
  apply silent_look
  intro d
  apply aloof_bind (aloof_ofExcept _)
  intro _
  apply aloof_bind (silent_modify _)
  intro _
  apply aloof_bind (silent_modify _)
  intro _
  apply aloof_bind (aloof_emit rfl)
  intro _
  apply aloof_pure

private theorem silent_launch (code : Binary) (frame : List KernelArg) (atomics : Option DeviceBuffer) (grid : Grid)
    (offset : Nat) (wait : List EventId) : Silent (launch code frame atomics grid offset wait) := by
  apply silent_look
  intro d
  apply aloof_bind (aloof_ofExcept _)
  intro kernel
  apply aloof_bind (aloof_ofExcept _)
  intro threads
  -- a kernel does not log
  have ran : Silent (runKernel kernel (.ofLaunch code frame atomics grid offset)) :=
    ⟨fun _ => rfl, fun _ _ member => absurd member List.not_mem_nil⟩
  apply aloof_bind ran
  intro _
  apply aloof_bind (silent_step _)
  intro event
  apply aloof_bind (silent_modify _)
  intro _
  apply aloof_bind (aloof_emit rfl)
  intro _
  apply aloof_pure

private theorem silent_enqueueMarker (wait : List EventId) : Silent (enqueueMarker wait) := by
  apply aloof_bind (silent_step _)
  rintro ⟨marker, deps⟩
  apply aloof_bind (silent_modify _)
  intro _
  apply aloof_bind (silent_modify _)
  intro _
  apply aloof_pure

private theorem silent_resolveEvent (id : EventId) : Silent (resolveEvent id) :=
  silent_look fun _ => aloof_ofExcept _

end Device

/-- The session when its program is read at another place, with or without a line for each instruction. -/
def Session.reads (c : Cursor) (traced : Bool) (s : Session) : Session :=
  { s with machine.program := c, machine.config.traceCode := traced }

namespace Machine
open Op

variable {α : Type} {c : Cursor} {traced : Bool}

/-! ### Machines -/

/-- The operation has no part in reading the program: the place is nothing to it, nor whether there are lines. -/
abbrev Unread (c : Cursor) (traced : Bool) (op : MachineOp α) : Prop :=
  Aloof (Session.reads c traced) op

/-- So it logs no such line and leaves both as they are. -/
theorem steady_of_unread {op : MachineOp α} (unread : ∀ c traced, Unread c traced op) (s : Session) :
    (op s).log.lines = [] ∧ (op s).state.machine.program = s.machine.program ∧
      (op s).state.machine.config.traceCode = s.machine.config.traceCode := by
  have aloof := unread s.machine.program s.machine.config.traceCode
  have same : (op s).state = (op s).state.reads s.machine.program s.machine.config.traceCode :=
    congrArg Outcome.state (aloof.apart s)
  refine ⟨aloof.lines s, ?_⟩
  rw [same]
  exact ⟨rfl, rfl⟩

private theorem unread_look {next : Session → MachineOp α} (blind : ∀ s, next (s.reads c traced) = next s)
    (tail : ∀ s, Unread c traced (next s)) : Unread c traced (Op.get >>= next) :=
  aloof_look blind tail

private theorem unread_onDevice {op : DeviceOp α} (silent : Device.Silent op) : Unread c traced (Session.onDevice op) :=
  aloof_onPart (aloof_mapError silent) (fun _ => rfl) fun _ _ => rfl

private theorem unread_onObject {index : Nat} {object : HostObject} {op : Device.CopyOut α} (silent : Aloof id op) :
    Unread c traced (onObject index object op) :=
  aloof_onPart (aloof_mapError silent) (fun _ => rfl) fun _ _ => rfl

/-- A step of the event lists. -/
theorem unread_setLists (change : EventLists → Except MachineError EventLists) :
    Unread c traced (Op.step fun s => (change s.machine.lists).map fun lists =>
      ((), { s with machine := { s.machine with lists } })) := by
  apply aloof_step
  intro s
  change (change s.machine.lists).map _ = _
  cases change s.machine.lists <;> rfl

private theorem unread_resetList (list : Option UInt32) : Unread c traced (resetList list) :=
  unread_setLists fun lists => lists.reset (list.map UInt32.toNat)

private theorem unread_waitList (list : Option UInt32) : Unread c traced (waitList list) :=
  unread_look (fun _ => rfl) fun _ => aloof_ofExcept _

private theorem unread_addMetric (kind : MetricKind) (key : String) (value : Nat) :
    Unread c traced (addMetric kind key value) :=
  aloof_modify fun _ => rfl

private theorem unread_alloc (batchSize : Nat) (objects : List UInt32) : Unread c traced (alloc batchSize objects) := by
  have bound (pairs : List (BufferRequest × DeviceBuffer)) : Unread c traced (bindAll pairs) := by
    induction pairs with
    | nil => exact aloof_pure _
    | cons pair rest ih =>
      refine aloof_bind (aloof_modify fun _ => rfl) fun _ => ?_
      apply aloof_bind (unread_addMetric _ _ _)
      intro _
      exact ih
  apply unread_look (fun _ => rfl)
  intro s
  apply aloof_bind (aloof_ofExcept _)
  intro requests
  split
  · apply aloof_pure
  · apply aloof_bind (aloof_ofExcept _)
    intro _
    apply aloof_bind (unread_onDevice (Device.silent_allocate _))
    intro buffers
    refine aloof_bind (aloof_modify fun _ => rfl) fun _ => ?_
    apply aloof_bind (bound _)
    intro _
    exact aloof_emit rfl

private theorem unread_dealloc (object : Nat) : Unread c traced (dealloc object) := by
  apply unread_look (fun _ => rfl)
  intro s
  apply aloof_bind (aloof_ofExcept _)
  intro entry
  apply aloof_bind (aloof_ofExcept _)
  intro binding
  split
  · exact aloof_ite (aloof_pure _) (aloof_bind (aloof_emit rfl) fun _ => aloof_pure _)
  · apply aloof_bind (unread_onDevice (Device.silent_deallocate _))
    intro freed
    refine aloof_bind (aloof_modify fun _ => rfl) fun _ => ?_
    refine aloof_bind (aloof_modify fun _ => rfl) fun _ => ?_
    apply aloof_bind (aloof_emit rfl)
    intro _
    apply aloof_pure

private theorem unread_profileTransfer (events : List EventId) (timer : TimerKind) (metric : MetricKind)
    (object bytes : Nat) : Unread c traced (profileTransfer events timer metric object bytes) := by
  have timed (events : List EventId) : Unread c traced (addEventTimes timer events) := by
    induction events with
    | nil => exact aloof_pure _
    | cons event rest ih =>
      apply aloof_bind (unread_onDevice (Device.silent_resolveEvent _))
      intro profile
      refine aloof_bind (aloof_modify fun _ => rfl) fun _ => ?_
      refine aloof_bind (aloof_modify fun _ => rfl) fun _ => ?_
      exact ih
  apply unread_look (fun _ => rfl)
  intro s
  split
  · apply aloof_bind (unread_onDevice (Device.silent_waitEvents _))
    intro _
    apply aloof_bind (timed _)
    intro _
    apply unread_addMetric
  · apply aloof_pure

private theorem unread_transferIn (transfer : Transfer) (once : Bool) : Unread c traced (transferIn transfer once) := by
  have measured (events : List EventId) (object bytes : Nat) : Unread c traced (do
      resetList transfer.list
      profileTransfer events .copyIn .copyInBytes object bytes) :=
    aloof_bind (unread_resetList _) fun _ => unread_profileTransfer _ _ _ _ _
  apply unread_look (fun _ => rfl)
  intro s
  apply aloof_bind (aloof_ofExcept _)
  intro entry
  split
  · apply aloof_pure
  apply aloof_bind (aloof_ofExcept _)
  intro buffer
  apply aloof_bind (aloof_ofExcept _)
  intro binding
  refine aloof_ite (unread_resetList _) ?_
  apply aloof_bind (aloof_ofExcept _)
  intro range
  apply aloof_bind (unread_waitList _)
  intro wait
  apply aloof_bind (unread_onDevice (Device.silent_streamIn _ _ _ _))
  intro events
  exact aloof_ite (aloof_bind (aloof_modify fun _ => rfl) fun _ => measured _ _ _) (measured _ _ _)

private theorem unread_transferOut (transfer : Transfer) (blocking : Bool) :
    Unread c traced (transferOut transfer blocking) := by
  apply unread_look (fun _ => rfl)
  intro s
  apply aloof_bind (aloof_ofExcept _)
  intro entry
  split
  · apply aloof_pure
  apply aloof_bind (aloof_ofExcept _)
  intro buffer
  apply aloof_bind (aloof_ofExcept _)
  intro range
  apply aloof_bind (unread_waitList _)
  intro wait
  have copied : Aloof id (if blocking then Device.streamOutBlocking buffer range wait
      else Device.streamOut buffer range wait) := by
    split
    · apply Device.silent_streamOutBlocking
    · apply Device.silent_streamOut
  apply aloof_bind (unread_onObject copied)
  intro event
  apply aloof_bind (unread_resetList _)
  intro _
  apply aloof_bind (unread_profileTransfer _ _ _ _ _)
  intro _
  apply aloof_pure

private theorem unread_syncEpoch : Unread c traced syncEpoch := by
  have forgotten : Unread c traced forgetBuffers := by
    apply unread_look (fun _ => rfl)
    intro s
    refine aloof_bind (aloof_modify fun _ => rfl) fun _ => ?_
    refine aloof_bind (aloof_modify fun _ => rfl) fun _ => ?_
    apply aloof_pure
  apply unread_look (fun _ => rfl)
  intro s
  split
  · apply aloof_pure
  split
  · apply aloof_fail
  apply aloof_bind (aloof_emit rfl)
  intro _
  apply aloof_bind forgotten
  intro bytes
  refine aloof_bind (aloof_modify fun _ => rfl) fun _ => ?_
  exact aloof_modify fun _ => rfl

private theorem unread_compile (l : Launch) : Unread c traced (compile l) := by
  have built (index : Nat) (task : Task) : Unread c traced (buildCode index task) := by
    apply unread_look (fun _ => rfl)
    intro s
    apply aloof_bind (aloof_attempt (unread_onDevice (Device.silent_installCode _)))
    intro installed
    apply aloof_bind (aloof_emit rfl)
    intro _
    split
    · apply aloof_fail
    · refine aloof_bind (aloof_modify fun _ => rfl) fun _ => ?_
      exact aloof_modify fun _ => rfl
  have fitted (index : Nat) (task : Task) (cache : CodeCache) :
      Unread c traced (if cache.needsCompile index then buildCode index task else pure ()) :=
    aloof_ite (built _ _) (aloof_pure _)
  apply aloof_bind unread_syncEpoch
  intro _
  apply unread_look (fun _ => rfl)
  intro s
  apply aloof_bind (aloof_ofExcept _)
  intro task
  refine aloof_bind (aloof_modify fun _ => rfl) fun _ => ?_
  exact aloof_ite (aloof_bind (aloof_emit rfl) fun _ => fitted _ _ _) (fitted _ _ _)

private theorem unread_dispatch (l : Launch) : Unread c traced (dispatch l) := by
  have installed : Unread c traced (installedCode l) :=
    unread_look (fun _ => rfl) fun s => aloof_bind (aloof_ofExcept _) fun task => aloof_ofExcept _
  have sent (values : List Int32) : Unread c traced (sendAtomics values) := by
    unfold sendAtomics
    split
    · apply aloof_pure
    · exact aloof_bind (unread_onDevice (Device.silent_writeAtomics _ _)) fun _ => aloof_pure _
  have bound : Unread c traced (bindLaunch l) := by
    apply unread_look
    · intro s
      rw [bindArgs_congr _ (show (s.reads c traced).machine.bindings = s.machine.bindings from rfl)]
      rfl
    intro s
    apply aloof_bind (aloof_ofExcept _)
    intro task
    refine aloof_bind (aloof_modify fun _ => rfl) fun _ => ?_
    apply aloof_bind (aloof_ofExcept _)
    intro arguments
    apply aloof_bind (unread_waitList _)
    intro wait
    apply aloof_bind (sent _)
    intro _
    apply aloof_pure
  have enqueued (code : Binary) (b : BoundLaunch) : Unread c traced (enqueue l code b) := by
    apply aloof_bind (aloof_attempt (unread_onDevice (Device.silent_launch _ _ _ _ _ _)))
    intro launched
    refine aloof_bind (aloof_modify fun _ => rfl) fun _ => ?_
    split
    · apply aloof_fail
    apply aloof_bind (unread_resetList _)
    intro _
    apply unread_look (fun _ => rfl)
    intro s
    refine aloof_ite ?_ (aloof_pure _)
    refine aloof_bind (aloof_modify fun _ => rfl) fun _ => ?_
    apply aloof_bind (unread_onDevice (Device.silent_waitEvents _))
    intro _
    apply aloof_bind (unread_onDevice (Device.silent_resolveEvent _))
    intro profile
    exact aloof_bind (unread_addMetric _ _ _) fun _ => aloof_pure _
  apply aloof_bind installed
  intro code
  exact aloof_bind bound (enqueued code)

private theorem unread_addDependency (last : Option EventId) (list : Option UInt32) :
    Unread c traced (addDependency last list) := by
  apply unread_look (fun _ => rfl)
  intro s
  split
  · exact unread_setLists fun lists => lists.push _ _
  · apply aloof_pure

private theorem unread_barrier (list : Option UInt32) : Unread c traced (barrier list) := by
  apply aloof_bind (unread_waitList _)
  intro wait
  apply aloof_bind (unread_onDevice (Device.silent_enqueueMarker _))
  intro marker
  apply aloof_bind (aloof_emit rfl)
  intro _
  apply aloof_bind (unread_resetList _)
  intro _
  apply aloof_pure

private theorem unread_keepOnDevice (object : Nat) : Unread c traced (keepOnDevice object) := by
  apply unread_look (fun _ => rfl)
  intro s
  apply aloof_bind (aloof_ofExcept _)
  intro entry
  exact aloof_emit rfl

/-! ### Passes -/

theorem unread_endPass (warmup : Bool) : Unread c traced (endPass warmup) := by
  have flushed (on : Bool) (marker : Option EventId) : Unread c traced (do
      if on then Session.onDevice Device.flush else pure ()
      pure marker) :=
    aloof_ite (aloof_bind (unread_onDevice (Device.silent_modify _)) fun _ => aloof_pure _) (aloof_pure _)
  cases warmup with
  | true => exact aloof_pure _
  | false =>
    apply unread_look (fun _ => rfl)
    intro s
    have marked : Unread c traced (some <$> Session.onDevice (Device.enqueueMarker [])) :=
      aloof_map (unread_onDevice (Device.silent_enqueueMarker []))
    exact aloof_ite (aloof_bind marked (flushed _)) (aloof_bind (aloof_pure _) (flushed _))

theorem unread_stepEntry (warmup : Bool) (last : Option EventId) (entry : Entry) :
    Unread c traced (stepEntry warmup last entry) := by
  obtain ⟨offset, i⟩ := entry
  have ended {α β : Type} {op : MachineOp α} {b : β} (aloof : Unread c traced op) :
      Unread c traced (op >>= fun _ => (pure b : MachineOp β)) :=
    aloof_bind aloof fun _ => aloof_pure _
  cases warmup with
  | true =>
    cases i with
    | launch l => exact ended (unread_compile l)
    | context device => exact ended (aloof_fail _)
    | beginPass => exact ended (aloof_fail _)
    | _ => exact ended (aloof_pure _)
  | false =>
    cases i with
    | alloc batchSize objects => exact ended (unread_alloc _ _)
    | dealloc object => exact ended (unread_dealloc _)
    | transfer kind operands =>
      cases kind with
      | inOnce => exact ended (unread_transferIn _ _)
      | inAlways => exact ended (unread_transferIn _ _)
      | outAlways => exact unread_transferOut _ _
      | outBlocking => exact ended (unread_transferOut _ _)
    | launch l => exact aloof_bind (unread_compile l) fun _ => aloof_map (unread_dispatch l)
    | addDependency list => exact ended (unread_addDependency _ _)
    | onDevice object => exact ended (unread_keepOnDevice _)
    | barrier list => exact aloof_map (unread_barrier _)
    | context device => exact aloof_fail _
    | beginPass => exact aloof_fail _
    | endPass => exact aloof_pure _

theorem unread_startPass : Unread c traced startPass :=
  aloof_bind (aloof_modify fun _ => rfl) fun _ => unread_syncEpoch

theorem unread_concludePass (warmup : Bool) (result : Except MachineError (Option EventId)) :
    Unread c traced (concludePass warmup result) := by
  cases result with
  | error e => exact aloof_emit rfl
  | ok marker =>
    refine aloof_bind (aloof_modify fun _ => rfl) fun _ => ?_
    apply unread_look (fun _ => rfl)
    intro s
    exact aloof_emit rfl

end Machine
end Offload
