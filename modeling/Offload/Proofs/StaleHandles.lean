import Offload.Proofs.Handles

/-! Stale handles. A reset makes every handle stale that was handed out before it, and a release the
handle of its buffer. From then on every operation that looks for what the handle named refuses it, for
good: numbers do not come again, so there is nothing newer that it could be taken for. A launch does not
look for the buffers among its arguments; its kernel does when it accesses them. -/
namespace Offload

namespace Memory

variable {m m' : Memory} {id : BufferId}

/-- There is no buffer of that number. -/
def Gone (m : Memory) (id : BufferId) : Prop :=
  m.buffers.get? id = none

private theorem gone_later (grows : m.Grows m') (used : id < m.nextId) (gone : m.Gone id) : m'.Gone id := by
  rcases found : m'.buffers.get? id with _ | held
  · exact found
  · obtain ⟨earlier, before, _⟩ := grows.sizes id held used found
    cases gone.symm.trans before

private theorem gone_overwrites (overwrites : m.Overwrites m') (gone : m.Gone id) : m'.Gone id := by
  have sizes := overwrites.sizes id
  rw [gone] at sizes
  exact Option.map_eq_none_iff.1 sizes

private theorem gone_clear (m : Memory) (id : BufferId) : m.clear.Gone id := rfl

private theorem gone_of_free {size : Nat} (freed : m.free id = .ok (size, m')) : m'.Gone id := by
  obtain ⟨held, _, _, rfl⟩ := free_ok_iff.1 freed
  rw [Gone, Table.get?_erase, if_pos rfl]

section Gone

variable (gone : m.Gone id)
include gone

private theorem buffer_gone : m.buffer id = .error (.invalidBuffer id) := by
  rw [buffer, gone]

private theorem free_gone : m.free id = .error (.invalidBuffer id) := by
  rw [free, gone]

private theorem contents_gone : m.contents id = .error (.invalidBuffer id) := by
  rw [contents, buffer_gone gone]
  rfl

private theorem read_gone (count : Nat) : m.read id count = .error (.invalidBuffer id) := by
  rw [read, buffer_gone gone]
  rfl

private theorem write_gone (data : Bytes) : m.write id data = .error (.invalidBuffer id) := by
  rw [write, buffer_gone gone]
  rfl

end Gone
end Memory

/-! ### Kernels that come to a buffer that is gone -/

namespace KernelProgram

variable {α : Type} {v : Invocation} {id : BufferId} {m : Memory}

/-- A program that fails with whatever an access of it is refused with. -/
def Strict : KernelProgram α → Prop
  | done _ => True
  | fail _ => True
  | read _ next => (∀ e, next (.error e) = fail e) ∧ ∀ data, (next (.ok data)).Strict
  | write _ _ next => (∀ e, next (.error e) = fail e) ∧ (next (.ok ())).Strict
  | readAtomics next => (∀ e, next (.error e) = fail e) ∧ ∀ data, (next (.ok data)).Strict
  | writeAtomics _ next => (∀ e, next (.error e) = fail e) ∧ (next (.ok ())).Strict
  | report _ next => next.Strict

/-- After accesses that are granted the program comes to an access of the buffer. -/
inductive Reaches (v : Invocation) (id : BufferId) : KernelProgram α → Memory → Prop where
  | read {index next m} (names : v.bufferId index = .ok id) : Reaches v id (read index next) m
  | write {index data next m} (names : v.bufferId index = .ok id) : Reaches v id (write index data next) m
  | readAtomics {next m} (names : v.atomicsId = .ok id) : Reaches v id (readAtomics next) m
  | writeAtomics {data next m} (names : v.atomicsId = .ok id) : Reaches v id (writeAtomics data next) m
  | afterRead {index next m data} (granted : v.bytes m index = .ok data)
      (reaches : Reaches v id (next (.ok data)) m) : Reaches v id (.read index next) m
  | afterWrite {index data next m m'} (granted : v.overwrite m index data = .ok m')
      (reaches : Reaches v id (next (.ok ())) m') : Reaches v id (.write index data next) m
  | afterReadAtomics {next m data} (granted : v.atomicsBytes m = .ok data)
      (reaches : Reaches v id (next (.ok data)) m) : Reaches v id (.readAtomics next) m
  | afterWriteAtomics {data next m m'} (granted : v.overwriteAtomics m data = .ok m')
      (reaches : Reaches v id (next (.ok ())) m') : Reaches v id (.writeAtomics data next) m
  | afterReport {entry next m} (reaches : Reaches v id next m) : Reaches v id (.report entry next) m

end KernelProgram

namespace Invocation

variable {v : Invocation} {id : BufferId} {m m' : Memory} {data : Bytes} {index : Nat}

private theorem overwrites_of_overwrite (granted : v.overwrite m index data = .ok m') : m.Overwrites m' := by
  unfold overwrite at granted
  rcases named : v.bufferId index with e | id <;> rw [named] at granted
  · cases granted
  · exact Memory.overwrites_write granted

private theorem overwrites_of_overwriteAtomics (granted : v.overwriteAtomics m data = .ok m') : m.Overwrites m' := by
  unfold overwriteAtomics at granted
  rcases named : v.atomicsId with e | id <;> rw [named] at granted
  · cases granted
  · exact Memory.overwrites_write granted

/-- Every access to the buffer is refused. -/
structure Refused (v : Invocation) (m : Memory) (id : BufferId) : Prop where
  bytes : ∀ index, v.bufferId index = .ok id → v.bytes m index = .error (.invalidBuffer id)
  overwrite : ∀ index, v.bufferId index = .ok id → ∀ data, v.overwrite m index data = .error (.invalidBuffer id)
  atomicsBytes : v.atomicsId = .ok id → v.atomicsBytes m = .error (.invalidBuffer id)
  overwriteAtomics : v.atomicsId = .ok id → ∀ data, v.overwriteAtomics m data = .error (.invalidBuffer id)

private theorem refused_of_gone (v : Invocation) (gone : m.Gone id) : v.Refused m id where
  bytes index names := by
    rw [bytes, names]
    exact Memory.contents_gone gone
  overwrite index names data := by
    rw [overwrite, names]
    exact Memory.write_gone gone data
  atomicsBytes names := by
    rw [atomicsBytes, names]
    exact Memory.contents_gone gone
  overwriteAtomics names data := by
    rw [overwriteAtomics, names]
    exact Memory.write_gone gone data

end Invocation

namespace KernelProgram

variable {α : Type} {v : Invocation} {id : BufferId} {m : Memory} {program : KernelProgram α}

/-- A strict program that comes to a buffer that is gone fails with that. -/
theorem run_gone (reaches : Reaches v id program m) (strict : program.Strict) (gone : m.Gone id) :
    (program.run v m).result = .error (.invalidBuffer id) := by
  have refused {m : Memory} (gone : m.Gone id) := v.refused_of_gone gone
  induction reaches with
  | read names => rw [run, (refused gone).bytes _ names, strict.1, run]
  | write names => simp only [run, (refused gone).overwrite _ names, strict.1]
  | readAtomics names => rw [run, (refused gone).atomicsBytes names, strict.1, run]
  | writeAtomics names => simp only [run, (refused gone).overwriteAtomics names, strict.1]
  | afterRead granted _ ih =>
    rw [run, granted]
    exact ih (strict.2 _) gone
  | afterWrite granted _ ih =>
    simp only [run, granted]
    exact ih strict.2 (Memory.gone_overwrites (Invocation.overwrites_of_overwrite granted) gone)
  | afterReadAtomics granted _ ih =>
    rw [run, granted]
    exact ih (strict.2 _) gone
  | afterWriteAtomics granted _ ih =>
    simp only [run, granted]
    exact ih strict.2 (Memory.gone_overwrites (Invocation.overwrites_of_overwriteAtomics granted) gone)
  | afterReport _ ih =>
    have failed := ih strict gone
    simp only [run]
    exact failed

end KernelProgram

namespace Device

variable {d d' : Device} {id : BufferId}

/-! ### What it is to reject a handle -/

/-- Nothing finds a buffer of that number. -/
structure RejectsBuffer (d : Device) (id : BufferId) : Prop where
  deallocate : ∀ b, b.id = id → Device.deallocate b d = ⟨.error (.invalidBuffer id), d, []⟩
  contents : d.memory.contents id = .error (.invalidBuffer id)
  /-- The bytes of the host are looked for first. -/
  streamIn : ∀ object b range wait, b.id = id → Device.streamIn object b range wait d =
    ⟨(object.readRange range.offset range.size).bind fun _ => .error (.invalidBuffer id), d, []⟩
  streamOut : ∀ object b range wait, b.id = id →
    Device.streamOut b range wait (object, d) = ⟨.error (.invalidBuffer id), (object, d), []⟩ ∧
    Device.streamOutBlocking b range wait (object, d) = ⟨.error (.invalidBuffer id), (object, d), []⟩
  /-- A kernel finds it neither at first nor after it has written to other buffers. -/
  access : ∀ (v : Invocation) m, d.memory.Overwrites m → v.Refused m id
  /-- So a launch fails when its kernel comes to the buffer and passes the refusal on. The threads are counted first. -/
  launch : ∀ code frame atomics grid globalOffset wait kernel, d.kernelOf code = .ok kernel →
    (kernel (.ofLaunch code frame atomics grid globalOffset)).Strict →
    (kernel (.ofLaunch code frame atomics grid globalOffset)).Reaches
      (.ofLaunch code frame atomics grid globalOffset) id d.memory →
    (Device.launch code frame atomics grid globalOffset wait d).result =
      (Invocation.ofLaunch code frame atomics grid globalOffset).threads.bind fun _ => .error (.invalidBuffer id)
  /-- Atomics are not written to it either. -/
  writeAtomics : ∀ b, d.atomics = some b → b.id = id → ∀ values wait,
    Device.writeAtomics values wait d = ⟨.error (.invalidBuffer id), d, []⟩

/-- What becomes of operations that are to wait for events of which `x` is the first unknown. -/
structure RejectsWait (d : Device) (wait : List EventId) (x : EventId) : Prop where
  listed : x ∈ wait
  unknown : ¬ d.events.Knows x
  enqueueMarker : Device.enqueueMarker wait d = ⟨.error (.invalidEvent x), d, []⟩
  waitEvents : (Device.waitEvents wait d).result = .error (.invalidEvent x)
  /-- Where the operation would have gone through without the events, they are what it fails with. -/
  streamIn : ∀ object b range, (Device.streamIn object b range wait d).result =
    (Device.streamIn object b range [] d).result.bind fun _ => .error (.invalidEvent x)
  streamOut : ∀ object b range, (Device.streamOut b range wait (object, d)).result =
    (Device.streamOut b range [] (object, d)).result.bind fun _ => .error (.invalidEvent x)
  streamOutBlocking : ∀ object b range, (Device.streamOutBlocking b range wait (object, d)).result =
    (Device.streamOut b range [] (object, d)).result.bind fun _ => .error (.invalidEvent x)
  launch : ∀ code frame atomics grid globalOffset,
    (Device.launch code frame atomics grid globalOffset wait d).result =
      (Device.launch code frame atomics grid globalOffset [] d).result.bind fun _ => .error (.invalidEvent x)
  writeAtomics : ∀ values, (Device.writeAtomics values wait d).result =
    (Device.writeAtomics values [] d).result.bind fun _ => .error (.invalidEvent x)

/-- Nothing finds an event of that number. -/
structure RejectsEvent (d : Device) (id : EventId) : Prop where
  resolveEvent : Device.resolveEvent id d = ⟨.error (.invalidEvent id), d, []⟩
  completeEvent : Device.completeEvent id d = ⟨.error (.invalidEvent id), d, []⟩
  dependencies : d.events.dependencies id = .error (.invalidEvent id)
  waits : ∀ wait, id ∈ wait → ∃ x, RejectsWait d wait x

/-- The binary is not launched. -/
def RejectsCode (d : Device) (code : Binary) : Prop :=
  ∀ frame atomics grid globalOffset wait,
    Device.launch code frame atomics grid globalOffset wait d = ⟨.error (.invalidCode code.id code.kernel), d, []⟩

def Rejects (d : Device) : Handle → Prop
  | .buffer b => RejectsBuffer d b.id
  | .event id => RejectsEvent d id
  | .code code => RejectsCode d code

/-! ### Buffers -/

private theorem rejects_gone (gone : d.memory.Gone id) : RejectsBuffer d id where
  deallocate := by
    rintro b rfl
    have failed : onMemory (fun m => m.free b.id) d = ⟨.error (.invalidBuffer b.id), d, []⟩ := by
      rw [onMemory_run, Memory.free_gone gone]
    rw [deallocate, Op.bind_error failed]
  contents := Memory.contents_gone gone
  streamIn := by
    rintro object b range wait rfl
    unfold streamIn
    cases object.readRange range.offset range.size with
    | error e => rfl
    | ok data =>
      rw [Op.ofExcept, Op.pure_bind, Op.bind_error (writeBuffer_gone gone)]
      rfl
  streamOut := by
    rintro object b range wait rfl
    have ran : streamOut b range wait (object, d) = ⟨.error (.invalidBuffer b.id), (object, d), []⟩ := by
      rw [streamOut_run, Memory.read_gone gone]
      rfl
    exact ⟨ran, by rw [streamOutBlocking, Op.bind_error ran]⟩
  access v m overwrites := v.refused_of_gone (Memory.gone_overwrites overwrites gone)
  launch := by
    intro code frame atomics grid globalOffset wait kernel found strict reaches
    have failed := KernelProgram.run_gone reaches strict gone
    unfold launch
    rw [Op.get_bind, found, Op.ofExcept, Op.pure_bind]
    rcases (Invocation.ofLaunch code frame atomics grid globalOffset).threads with e | threads
    · rfl
    · rw [Op.ofExcept, Op.pure_bind, Op.bind_run]
      simp only [runKernel]
      rw [failed]
      rfl
  writeAtomics := by
    rintro b remembered rfl values wait
    unfold writeAtomics
    by_cases enough : 4 * values.length ≤ b.size
    · rw [Op.bind_ok (atomicsBuffer_kept remembered enough), Op.bind_error (writeBuffer_gone gone)]
      rfl
    · rw [Op.bind_error (atomicsBuffer_gone remembered enough gone)]

/-! ### Events -/

section Events

variable {wait : List EventId} {x : EventId} {e : DeviceError} {α β : Type}

/-- Where an operation on good events goes through, one on these fails with what the check of them does. -/
def Gated (op : List EventId → DeviceOp α) : Prop :=
  ∀ d wait e, d.events.checkAll wait = .error e →
    (op wait d).result = (op [] d).result.bind fun _ => .error e

def SameEvents (before after : Device) : Prop :=
  after.events = before.events

instance : Op.Transition SameEvents where
  refl _ := rfl
  trans first second := second.trans first

private theorem gated_record (kind : EventKind) {next : EventId → DeviceOp α}
    (succeeds : ∀ event, Op.Succeeds (next event)) :
    Gated fun wait => recordEvent kind wait >>= next := by
  intro d wait e refused
  have failed : recordEvent kind wait d = ⟨.error e, d, []⟩ := by
    rw [recordEvent, onEvents_run, EventTable.record, refused]
    rfl
  rcases recorded : recordEvent kind [] d with ⟨e' | event, d', log⟩
  · rw [recordEvent, onEvents_run] at recorded
    cases recorded
  · obtain ⟨a, succeeded⟩ := succeeds event d'
    show ((recordEvent kind wait >>= next) d).result = ((recordEvent kind [] >>= next) d).result.bind _
    rw [Op.bind_error failed, Op.bind_ok recorded, succeeded]
    rfl

private theorem gated_bind {first : DeviceOp α} {next : α → List EventId → DeviceOp β}
    (same : Op.Moves first SameEvents)
    (gated : ∀ a, Gated (next a)) : Gated fun wait => first >>= fun a => next a wait := by
  intro d wait e refused
  have events := same d
  show ((first >>= fun a => next a wait) d).result = ((first >>= fun a => next a []) d).result.bind _
  rw [Op.bind_run, Op.bind_run]
  rcases ran : first d with ⟨e' | a, d', log⟩ <;> rw [ran] at events
  · rfl
  · exact gated a d' wait e (by rw [events]; exact refused)

instance : Tolerates [.record, .drain, .complete, .mark, .reset] SameEvents where
  change other change := by
    cases change with
    | record | drain | complete | mark | reset => exact absurd (by decide) other
    | _ => rfl

/-- What is counted and logged behind a command cannot fail. -/
private theorem succeeds_note (change : DeviceCounters → DeviceCounters) (record : LogEvent) (a : α) :
    Op.Succeeds (do count change; Op.emit record; pure a : DeviceOp α) :=
  Op.succeeds_bind (Op.succeeds_modify _) fun _ =>
    Op.succeeds_bind (Op.succeeds_emit _) fun _ => Op.succeeds_pure _

private theorem gated_streamIn (object : HostObject) (b : DeviceBuffer) (range : HostRange) :
    Gated (streamIn object b range) := by
  refine gated_bind (Op.moves_ofExcept _) fun data => ?_
  refine gated_bind (moves_within (only_writeBuffer _ _) (by decide)) fun _ => ?_
  exact gated_record _ fun event => succeeds_note _ _ _

private theorem gated_noteCopyOut (range : HostRange) : Gated (noteCopyOut range) := by
  exact gated_record _ fun event => succeeds_note _ _ _

private theorem gated_launch (code : Binary) (frame : List KernelArg) (atomics : Option DeviceBuffer) (grid : Grid)
    (globalOffset : Nat) : Gated (launch code frame atomics grid globalOffset) := by
  refine gated_bind Op.moves_get fun d => ?_
  refine gated_bind (Op.moves_ofExcept _) fun kernel => ?_
  refine gated_bind (Op.moves_ofExcept _) fun threads => ?_
  refine gated_bind (fun _ => rfl) fun _ => ?_
  exact gated_record _ fun event => succeeds_note _ _ _

private theorem gated_writeAtomics (values : List Int32) : Gated (writeAtomics values) := by
  refine gated_bind (moves_within (only_atomicsBuffer _) (by decide)) fun b => ?_
  refine gated_bind (moves_within (only_writeBuffer _ _) (by decide)) fun _ => ?_
  refine gated_record _ fun event => ?_
  exact Op.succeeds_bind (Op.succeeds_modify _) fun _ => Op.succeeds_pure _

private theorem streamOut_gated (object : HostObject) (b : DeviceBuffer) (range : HostRange)
    (refused : d.events.checkAll wait = .error e) : (streamOut b range wait (object, d)).result =
      (streamOut b range [] (object, d)).result.bind fun _ => .error e := by
  rw [streamOut_run, streamOut_run]
  rcases (d.memory.read b.id range.size).bind (object.writeRange range.offset) with e' | object'
  · rfl
  · exact gated_noteCopyOut range d wait e refused

private theorem streamOutBlocking_gated (object : HostObject) (b : DeviceBuffer) (range : HostRange)
    (refused : d.events.checkAll wait = .error e) : (streamOutBlocking b range wait (object, d)).result =
      (streamOut b range [] (object, d)).result.bind fun _ => .error e := by
  have ungated := streamOut_gated object b range refused
  rw [streamOutBlocking, ← ungated, Op.bind_run]
  rcases ran : streamOut b range wait (object, d) with ⟨e' | event, s, log⟩
  · rfl
  · rw [ran] at ungated
    rcases good : (streamOut b range [] (object, d)).result with e' | event' <;> rw [good] at ungated <;> cases ungated

/-- The first event that is not known is what a check fails with. -/
theorem checkAll_first {t : EventTable} {id : EventId} (sound : t.Sound) (unknown : ¬ t.Knows id)
    (member : id ∈ wait) : ∃ x ∈ wait, ¬ t.Knows x ∧ t.checkAll wait = .error (.invalidEvent x) := by
  induction wait with
  | nil => cases member
  | cons w rest ih =>
    by_cases known : t.Knows w
    · have later : id ∈ rest := by
        rcases List.mem_cons.1 member with rfl | later
        · exact absurd known unknown
        · exact later
      obtain ⟨x, listed, unknown', failed⟩ := ih later
      refine ⟨x, List.mem_cons_of_mem _ listed, unknown', ?_⟩
      rw [EventTable.checkAll, sound.lookup, if_pos known]
      exact failed
    · refine ⟨w, List.mem_cons_self, known, ?_⟩
      rw [EventTable.checkAll, sound.lookup_error known]

/-- A check only looks at what is known. -/
theorem checkAll_congr {t t' : EventTable} (sound : t.Sound) (sound' : t'.Sound)
    (same : ∀ id, t'.Knows id ↔ t.Knows id) : t'.checkAll wait = t.checkAll wait := by
  induction wait with
  | nil => rfl
  | cons w rest ih =>
    simp only [EventTable.checkAll, sound.lookup, sound'.lookup, same]
    by_cases known : t.Knows w
    · simp only [if_pos known]
      exact ih
    · simp only [if_neg known]

/-- Waiting goes through up to the first event that is not known. -/
theorem drainAll_refused (sound : d.events.Sound) (refused : d.events.checkAll wait = .error (.invalidEvent x)) :
    (drainAll wait d).result = .error (.invalidEvent x) := by
  induction wait generalizing d with
  | nil => cases refused
  | cons w rest ih =>
    rw [EventTable.checkAll, sound.lookup] at refused
    rw [drainAll, Op.bind_run, onEvents_run]
    by_cases known : d.events.Knows w
    · rw [if_pos known] at refused
      obtain ⟨t, drained, later⟩ := sound.drain_ok known
      obtain ⟨next, forgotten⟩ := EventTable.drain_numbers drained
      rw [drained]
      refine ih (d := { d with events := t }) later.sound ?_
      rw [← refused]
      exact checkAll_congr sound later.sound fun id => by rw [EventTable.Knows, next, forgotten, EventTable.Knows]
    · rw [if_neg known] at refused
      cases refused
      rw [EventTable.drain, EventTable.unfinished, EventTable.explore_refused (sound.lookup_error known)]
      rfl

private theorem rejects_wait (sound : d.events.Sound) (listed : x ∈ wait) (unknown : ¬ d.events.Knows x)
    (refused : d.events.checkAll wait = .error (.invalidEvent x)) : RejectsWait d wait x where
  listed := listed
  unknown := unknown
  enqueueMarker := by
    have some : wait.isEmpty = false := by
      cases wait with
      | nil => cases listed
      | cons w rest => rfl
    have failed : onEvents (fun t => t.marker wait) d = ⟨.error (.invalidEvent x), d, []⟩ := by
      rw [onEvents_run, EventTable.marker, some]
      simp only [Bool.false_eq_true, if_false, refused]
      rfl
    rw [enqueueMarker, Op.bind_error failed]
  waitEvents := by
    have failed := drainAll_refused sound refused
    rw [waitEvents, Op.bind_run]
    rcases ran : drainAll wait d with ⟨e | u, d', log⟩ <;> rw [ran] at failed <;> cases failed
    rfl
  streamIn object b range := gated_streamIn object b range d wait _ refused
  streamOut object b range := streamOut_gated object b range refused
  streamOutBlocking object b range := streamOutBlocking_gated object b range refused
  launch code frame atomics grid globalOffset := gated_launch code frame atomics grid globalOffset d wait _ refused
  writeAtomics values := gated_writeAtomics values d wait _ refused

private theorem rejects_unknown {id : EventId} (sound : d.events.Sound) (unknown : ¬ d.events.Knows id) :
    RejectsEvent d id where
  resolveEvent := by
    rw [resolveEvent, Op.get_bind, EventTable.profile, EventTable.isComplete,
      EventTable.explore_refused (sound.lookup_error unknown)]
    rfl
  completeEvent := by
    rw [completeEvent, onEvents_run, EventTable.complete, sound.lookup_error unknown]
    rfl
  dependencies := by
    rw [EventTable.dependencies, sound.lookup_error unknown]
    rfl
  waits wait member := by
    obtain ⟨x, listed, unknown', refused⟩ := checkAll_first sound unknown member
    exact ⟨x, rejects_wait sound listed unknown' refused⟩

end Events

/-! ### Binaries -/

private theorem rejects_earlier {code : Binary} (earlier : code.epoch < d.epoch) : RejectsCode d code := by
  intro frame atomics grid globalOffset wait
  have refused : d.kernelOf code = .error (.invalidCode code.id code.kernel) := by
    rw [kernelOf, if_pos (.inr (Nat.ne_of_lt earlier))]
  rw [launch, Op.get_bind, refused]
  rfl

/-! ### Histories -/

variable {issued : List Handle}

/-- What a reset made stale is rejected from then on. -/
theorem rejects_after_reset (past : Past d issued) (later : Later (reset d).state d') {h : Handle}
    (member : h ∈ issued) : d'.Rejects h := by
  have tracked := tracked_of_past past
  have behind := tracked.behind h member
  obtain ⟨numbers, sound⟩ := numbers_of_later later (EventTable.sound_clear d.events)
  cases h with
  | buffer b => exact rejects_gone (Memory.gone_later numbers.memory behind (Memory.gone_clear _ _))
  | event id =>
    refine rejects_unknown sound fun known => ?_
    exact absurd known.1 (Nat.not_le.2 (Nat.lt_of_lt_of_le behind numbers.events.forgotten))
  | code code => exact rejects_earlier (Nat.lt_of_le_of_lt behind.2 (Nat.lt_of_succ_le numbers.epoch))

/-- So is what is gone for another reason. -/
theorem rejects_once_gone (past : Past d issued) {b : DeviceBuffer} (member : .buffer b ∈ issued)
    (gone : d.memory.Gone b.id) (later : Later d d') : RejectsBuffer d' b.id := by
  have tracked := tracked_of_past past
  have numbers := (numbers_of_later later tracked.sound).1
  exact rejects_gone (Memory.gone_later numbers.memory (tracked.behind _ member) gone)

/-- A buffer that was given back is gone. -/
theorem gone_of_deallocate {b : DeviceBuffer} {freed : Nat} (ran : Op.Yields (deallocate b) d freed d') :
    d'.memory.Gone b.id := by
  obtain ⟨m, released, rfl⟩ := Machine.yields_deallocate.1 ran
  exact Memory.gone_of_free released

/-- No number is handed out twice, and a handle that has become stale is rejected for good: by a reset,
for every kind of handle, and by a release, for buffers. -/
theorem stale_rejected (past : Past d issued) :
    issued.Pairwise Handle.Apart ∧
      (∀ d', Later (reset d).state d' → ∀ h ∈ issued, d'.Rejects h) ∧
      (∀ b freed d₁ d', .buffer b ∈ issued → Op.Yields (deallocate b) d freed d₁ → Later d₁ d' →
        RejectsBuffer d' b.id) ∧
      (∀ b d', .buffer b ∈ issued → d.memory.Gone b.id → Later d d' → RejectsBuffer d' b.id) ∧
      ∀ values wait b events d', Op.Yields (writeAtomics values wait) d (b, events) d' →
        .buffer b ∈ issued ++ (DeviceCommand.writeAtomics values wait).issues d := by
  refine ⟨(tracked_of_past past).apart, fun d' later h => rejects_after_reset past later, ?_,
    fun b d' member gone later => rejects_once_gone past member gone later, ?_⟩
  · intro b freed d₁ d' member ran later
    have past' := Past.step past (.deallocate b)
    rw [DeviceCommand.run, Op.map_state, ran.2] at past'
    exact rejects_once_gone past' (List.mem_append_left _ member) (gone_of_deallocate ran) later
  · intro values wait b events d' ran
    have remembered := atomics_of_writeAtomics ran
    have tracked := tracked_of_past (past.step (.writeAtomics values wait))
    rw [DeviceCommand.run, Op.map_state, ran.2] at tracked
    exact tracked.slot b remembered

def compileNoop : CompileRequest where
  task := { id := "noop", kernel := "noop" }
  taskIndex := 0
  batchThreads := 0
  batchSize := 0
  batchNumber := 0
  grid := none
  force := false

/-- A device with a kernel that does nothing; it lent out a buffer, copied to it and compiled the kernel. -/
def lent : Device :=
  let start := (DeviceCommand.registerKernel "noop" fun _ => .done ()).run (create {} false)
  let first := (DeviceCommand.allocate [4]).run start.state
  let second := (DeviceCommand.streamIn (.array (.zeroed .i32 1)) ⟨1, 4⟩ ⟨0, 4⟩ []).run first.state
  ((DeviceCommand.installCode compileNoop).run second.state).state

/-- The same device after a reset, with a new buffer and a new binary. -/
def relent : Device :=
  let first := (DeviceCommand.allocate [4]).run (reset lent).state
  ((DeviceCommand.installCode compileNoop).run first.state).state

private theorem lent_past : Past lent [.buffer ⟨1, 4⟩, .event 1, .code { id := 1, kernel := "noop", epoch := 0 }] :=
  .step (.step (.step (.step (.start {} false) (.registerKernel "noop" fun _ => .done ())) (.allocate [4]))
    (.streamIn (.array (.zeroed .i32 1)) ⟨1, 4⟩ ⟨0, 4⟩ [])) (.installCode compileNoop)

private theorem relent_later : Later (reset lent).state relent :=
  .step (.step .now (.allocate [4])) (.installCode compileNoop)

/-- The handles from before the reset are refused on the device after it, which has others. -/
theorem relent_rejects : RejectsBuffer relent 1 ∧ RejectsEvent relent 1 ∧
    RejectsCode relent { id := 1, kernel := "noop", epoch := 0 } := by
  have rejects := (stale_rejected lent_past).2.1 relent relent_later
  exact ⟨rejects (.buffer ⟨1, 4⟩) (by simp), rejects (.event 1) (by simp), rejects (.code _) (by simp)⟩

/-- A launch takes a stale buffer if its kernel does not come to it, and a write of atomics names the same
buffer again and again. -/
theorem stale_argument_taken :
    (¬ ∀ d issued, Past d issued → ∀ d', Later (reset d).state d' → ∀ b, .buffer b ∈ issued →
      ∀ code frame atomics grid globalOffset wait, .buffer b ∈ frame →
        ∃ e, (launch code frame atomics grid globalOffset wait d').result = .error e) ∧
    ¬ ∀ d issued, Past d issued → ∀ values wait b events d',
      Op.Yields (writeAtomics values wait) d (b, events) d' → .buffer b ∉ issued := by
  constructor
  · intro claim
    obtain ⟨e, failed⟩ := claim _ _ lent_past _ relent_later ⟨1, 4⟩ (by simp)
      { id := 2, kernel := "noop", epoch := 1 } [.buffer ⟨1, 4⟩] none {} 0 [] (by simp)
    cases failed
  · intro claim
    have past : Past _ [.buffer ⟨1, 4⟩, .event 1] := Past.step (.start {} false) (.writeAtomics [1] [])
    exact claim _ _ past [2] [] ⟨1, 4⟩ [2] _ ⟨rfl, rfl⟩ (by simp)

end Device
end Offload
