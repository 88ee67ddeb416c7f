import Offload.Proofs.Copies
import Offload.Proofs.DeclaredLists
import Offload.Proofs.Commands
import Offload.Proofs.Warmup

/-! Instructions that are refused because the program is malformed. A machine checks what an instruction
names before it asks the device for anything, so that a refusal leaves everything as it was. One check
comes too late: with dependencies switched off nobody looks at the event list of a consumer until the
work is done and the list is to be emptied. -/
namespace Offload

namespace Device

/-- The device has been asked for as much, or for more. -/
def Advances (before after : Device) : Prop :=
  before.counters.deviceWork ≤ after.counters.deviceWork

instance : Op.Transition Advances where
  refl _ := Nat.le_refl _
  trans := Nat.le_trans

variable {α β : Type}

instance : Tolerates [] Advances where
  change _ change := by
    cases change with
    | count grows => exact grows.deviceWork
    | countIn | countOut | mark =>
      simp only [Advances, DeviceCounters.deviceWork]
      omega
    | _ => exact Nat.le_refl _

instance survives_advances : Survives Advances := survives_of_allowed (by decide)

/-- When it succeeds, the operation counts as work. -/
structure Toils (op : DeviceOp α) : Prop where
  advances : Op.Moves op Advances
  works : ∀ d a d', Op.Yields op d a d' → d.counters.deviceWork < d'.counters.deviceWork

private theorem toils_bind {first : DeviceOp α} {next : α → DeviceOp β} (head : Op.Moves first Advances)
    (tail : ∀ a, Toils (next a)) : Toils (first >>= next) where
  advances := Op.moves_bind head fun a => (tail a).advances
  works d b d' ran := by
    obtain ⟨a, u, began, ended⟩ := Op.yields_bind.1 ran
    exact Nat.lt_of_le_of_lt (head.yields began) ((tail a).works u b d' ended)

private theorem toils_count_bind {change : DeviceCounters → DeviceCounters} {next : Unit → DeviceOp α}
    (more : ∀ c, (change c).deviceWork = c.deviceWork + 1) (tail : Op.Moves (next ()) Advances) :
    Toils (count change >>= next) := by
  have counted (d : Device) : d.counters.deviceWork < (change d.counters).deviceWork := by
    rw [more]
    exact Nat.lt_succ_self _
  refine ⟨Op.moves_bind (Op.moves_modify fun d => Nat.le_of_lt (counted d)) fun _ => tail, ?_⟩
  intro d b d' ran
  obtain ⟨_, u, began, ended⟩ := Op.yields_bind.1 ran
  rw [← Op.yields_modify.1 began] at ended
  have advanced := tail.yields ended
  exact Nat.lt_of_lt_of_le (counted d) advanced

private theorem toils_streamIn (object : HostObject) (buffer : DeviceBuffer) (range : HostRange)
    (wait : List EventId) : Toils (streamIn object buffer range wait) := by
  refine toils_bind (Op.moves_ofExcept _) fun data => ?_
  refine toils_bind (moves_within (only_writeBuffer _ _) (by decide)) fun _ => ?_
  refine toils_bind (moves_within (only_recordEvent _ _) (by decide)) fun event => toils_count_bind (fun c => ?_) ?_
  · simp only [DeviceCounters.deviceWork]
    omega
  · exact Op.moves_bind (Op.moves_emit _) fun _ => Op.moves_pure _

private theorem toils_launch (code : Binary) (frame : List KernelArg) (atomics : Option DeviceBuffer) (grid : Grid)
    (offset : Nat) (wait : List EventId) : Toils (launch code frame atomics grid offset wait) := by
  refine toils_bind Op.moves_get fun d => toils_bind (Op.moves_ofExcept _) fun kernel => ?_
  refine toils_bind (Op.moves_ofExcept _) fun threads => ?_
  refine toils_bind (moves_within (only_runKernel _ _) (by decide)) fun _ => ?_
  refine toils_bind (moves_within (only_recordEvent _ _) (by decide)) fun event => ?_
  refine toils_count_bind (fun c => ?_) ?_
  · simp only [DeviceCounters.deviceWork]
    omega
  · exact Op.moves_bind (Op.moves_emit _) fun _ => Op.moves_pure _

private theorem toils_enqueueMarker (wait : List EventId) : Toils (enqueueMarker wait) := by
  refine toils_bind (moves_onEvents fun _ _ _ _ => Nat.le_refl _) fun marker => toils_count_bind (fun c => ?_) ?_
  · simp only [DeviceCounters.deviceWork]
    omega
  · exact Op.moves_bind (Op.moves_modify fun _ => Nat.le_refl _) fun _ => Op.moves_pure _

/-- The part of a copy to the host that is the device's. -/
theorem toils_recordCopy (range : HostRange) (wait : List EventId) : Toils (do
    let event ← recordEvent .read wait
    count fun c => { c with copiesOut := c.copiesOut + 1, bytesOut := c.bytesOut + range.size }
    Op.emit (Performance.transfer range.size .deviceToHost none)
    pure event : DeviceOp EventId) := by
  refine toils_bind (moves_within (only_recordEvent _ _) (by decide)) fun event => toils_count_bind (fun c => ?_) ?_
  · simp only [DeviceCounters.deviceWork]
    omega
  · exact Op.moves_bind (Op.moves_emit _) fun _ => Op.moves_pure _

private theorem works_streamOut {buffer : DeviceBuffer} {range : HostRange} {wait : List EventId} {event : EventId}
    {x y : HostObject × Device} (ran : Op.Yields (streamOut buffer range wait) x event y) :
    x.2.counters.deviceWork < y.2.counters.deviceWork := by
  unfold streamOut at ran
  obtain ⟨_, _, looked, ran⟩ := Op.yields_bind.1 ran
  obtain ⟨_, rfl⟩ := Op.yields_get.1 looked
  obtain ⟨data, _, read, ran⟩ := Op.yields_bind.1 ran
  obtain ⟨_, rfl⟩ := Op.yields_ofExcept.1 read
  obtain ⟨_, u, wrote, ran⟩ := Op.yields_bind.1 ran
  obtain ⟨d, recorded, rfl⟩ := Op.yields_onPart.1 ran
  rw [Op.yields_step] at wrote
  rcases written : x.1.writeRange range.offset data with e | object <;> rw [written] at wrote <;> cases wrote
  exact (toils_recordCopy range wait).works _ _ _ recorded

private theorem works_streamOutBlocking {buffer : DeviceBuffer} {range : HostRange} {wait : List EventId}
    {event : EventId} {x y : HostObject × Device}
    (ran : Op.Yields (streamOutBlocking buffer range wait) x event y) :
    x.2.counters.deviceWork < y.2.counters.deviceWork := by
  obtain ⟨copy, u, copied, ran⟩ := Op.yields_bind.1 ran
  have waits : Op.Moves (waitEvents [copy]) Advances := moves_within (only_waitEvents _) (by decide)
  have waited : OfCopy Advances u y := (Op.moves_bind (ofCopy_onDevice waits) fun _ => Op.moves_pure copy).yields ran
  exact Nat.lt_of_lt_of_le (works_streamOut copied) waited

end Device

namespace Session

/-- What the device has been asked to do in this session, compilations apart. -/
def work (s : Session) : Nat :=
  s.device.counters.deviceWork

/-- The sessions differ in binaries and in the arguments of earlier launches only: host objects, bindings,
event lists and the budget are the same, and the device has been asked for nothing but compilations. -/
def Untouched (s t : Session) : Prop :=
  Alike { s with machine.frames := {} } { t with machine.frames := {} }

instance : Op.Transition Untouched where
  refl _ := Op.Transition.refl (R := Alike) _
  trans first second := Op.Transition.trans (R := Alike) first second

variable {s t : Session}

theorem untouched_of_alike (alike : Alike s t) : s.Untouched t :=
  alike_change (fun s => { s with machine.frames := {} }) (fun _ => rfl) (fun _ => rfl) alike

private theorem Untouched.symm (untouched : s.Untouched t) : t.Untouched s :=
  Alike.symm untouched

/-- What shows neither binaries nor those arguments is the same on both. -/
theorem Untouched.view {β : Type} (untouched : s.Untouched t) (view : Session → β)
    (blind : ∀ s, view s = view { s.outline with machine.frames := {} }) : view s = view t := by
  have same : ({ s.outline with machine.frames := {} } : Session) = { t.outline with machine.frames := {} } :=
    Alike.outline untouched
  rw [blind s, blind t, same]

private theorem Untouched.work (untouched : s.Untouched t) : s.work = t.work :=
  untouched.view Session.work fun _ => rfl

/-- An event list is missing that nobody has asked for. -/
def Unasked (s : Session) (e : MachineError) : Prop :=
  s.machine.config.useDependencies = false ∧ e.MissesList

end Session

namespace Machine
open Session (Untouched Via)
open Device (Advances survives_advances)

variable {α β : Type} {s t : Session} {late : MachineError → Prop} {work : Nat}

/-! ### Operations that are no fault of the program -/

/-- Whatever the operation fails for, the program is well formed. -/
def Sober (op : MachineOp α) : Prop :=
  ∀ s e, (op s).result = .error e → e.kind ≠ .malformedProgram

private theorem sober_bind {first : MachineOp α} {next : α → MachineOp β} (head : Sober first)
    (tail : ∀ a, Sober (next a)) : Sober (first >>= next) := by
  intro s e failed
  rcases Op.bind_failed failed with first | ⟨a, t, _, second⟩
  · exact head s e first
  · exact tail a t e second

private theorem sober_of_succeeds {op : MachineOp α} (succeeds : Op.Succeeds op) : Sober op := by
  intro s e failed
  obtain ⟨a, succeeded⟩ := succeeds s
  rw [succeeded] at failed
  cases failed

private theorem sober_pure (a : α) : Sober (pure a) :=
  sober_of_succeeds (Op.succeeds_pure a)

private theorem sober_ite {c : Prop} [Decidable c] {yes no : MachineOp α} (left : Sober yes) (right : Sober no) :
    Sober (if c then yes else no) := by
  split
  · exact left
  · exact right

private theorem sober_get_bind {next : Session → MachineOp α} (tail : ∀ s, Sober (next s)) :
    Sober (Op.get >>= next) :=
  fun s => tail s s

private theorem sober_fail {e : MachineError} (sound : e.kind ≠ .malformedProgram) :
    Sober (Op.fail e : MachineOp α) := by
  rintro s _ ⟨⟩
  exact sound

private theorem sober_ofExcept {r : Except MachineError α}
    (sound : ∀ e, r = .error e → e.kind ≠ .malformedProgram) : Sober (Op.ofExcept r) := by
  cases r with
  | error e => exact sober_fail (sound e rfl)
  | ok a => exact sober_pure a

private theorem kind_ofDevice (e : DeviceError) : (MachineError.ofDevice e).kind ≠ .malformedProgram := by
  cases e <;> nofun

private theorem sober_onPart {σ : Type} {view : Session → σ} {update : σ → Session → Session}
    (op : Op DeviceError σ α) : Sober ((op.mapError MachineError.ofDevice).onPart view update) := by
  intro s e failed
  simp only [Op.onPart, Op.mapError] at failed
  rcases ran : op (view s) with ⟨e' | a, t, log⟩ <;> rw [ran] at failed <;> cases failed
  exact kind_ofDevice e'

private theorem sober_onDevice (op : DeviceOp α) : Sober (Session.onDevice op) := sober_onPart op

private theorem sober_emit (event : LogEvent) : Sober (Op.emit event) :=
  sober_of_succeeds (Op.succeeds_emit event)

private theorem sober_modify (change : Session → Session) : Sober (Op.modify change) :=
  sober_of_succeeds (Op.succeeds_modify change)

private theorem sober_bindAll (pairs : List (BufferRequest × DeviceBuffer)) : Sober (bindAll pairs) := by
  induction pairs with
  | nil => exact sober_pure _
  | cons pair rest ih => exact sober_bind (sober_modify _) fun _ => sober_bind (sober_modify _) fun _ => ih

private theorem sober_profileTransfer (events : List EventId) (timer : TimerKind) (metric : MetricKind)
    (object bytes : Nat) : Sober (profileTransfer events timer metric object bytes) := by
  have times (events : List EventId) : Sober (addEventTimes timer events) := by
    induction events with
    | nil => exact sober_pure _
    | cons event rest ih =>
      refine sober_bind (sober_onDevice _) fun profile => ?_
      exact sober_bind (sober_modify _) fun _ => sober_bind (sober_modify _) fun _ => ih
  refine sober_get_bind fun s => sober_ite ?_ (sober_pure _)
  exact sober_bind (sober_onDevice _) fun _ => sober_bind (times _) fun _ => sober_modify _

private theorem sober_sendAtomics (atomics : List Int32) : Sober (sendAtomics atomics) :=
  sober_ite (sober_pure _) (sober_bind (sober_onDevice _) fun _ => sober_pure _)

private theorem sober_endPass (warmup : Bool) : Sober (endPass warmup) := by
  have flushed (s : Session) (marker : Option EventId) : Sober (do
      if s.machine.config.flushOnEnd then Session.onDevice Device.flush else pure ()
      pure marker : MachineOp (Option EventId)) :=
    sober_ite (sober_bind (sober_onDevice _) fun _ => sober_pure _) (sober_pure _)
  refine sober_ite (sober_pure _) (sober_get_bind fun s => sober_ite ?_ ?_)
  · exact sober_bind (sober_bind (sober_onDevice _) fun _ => sober_pure _) (flushed s)
  · exact sober_bind (sober_pure _) (flushed s)

private theorem sober_syncEpoch : Sober syncEpoch := by
  refine sober_get_bind fun s => sober_ite (sober_pure _) (sober_ite (sober_fail nofun) ?_)
  refine sober_bind (sober_emit _) fun _ => sober_bind (sober_get_bind fun _ => ?_) fun _ => ?_
  · exact sober_bind (sober_modify _) fun _ => sober_bind (sober_modify _) fun _ => sober_pure _
  · exact sober_bind (sober_modify _) fun _ => sober_modify _

/-! ### Two phases -/

/-- The operation blames the program only late, and then there is more work than before. -/
def Lapses (late : MachineError → Prop) (work : Nat) (op : MachineOp α) (s : Session) : Prop :=
  ∀ e, (op s).result = .error e → e.kind = .malformedProgram → late e ∧ work < (op s).state.work

/-- If the operation blames the program it has touched nothing, unless it does so late. -/
def Judged (late : MachineError → Prop) (op : MachineOp α) (s : Session) : Prop :=
  ∀ e, (op s).result = .error e → e.kind = .malformedProgram → (s.Untouched (op s).state ↔ ¬ late e)

private theorem lapses_of_sober {op : MachineOp α} (sober : Sober op) : Lapses late work op s :=
  fun e failed malformed => absurd malformed (sober s e failed)

private theorem lapses_bind {first : MachineOp α} {next : α → MachineOp β} (head : Sober first)
    (tail : ∀ a t, Op.Yields first s a t → Lapses late work (next a) t) :
    Lapses late work (first >>= next) s := by
  intro e failed malformed
  rcases Op.bind_failed failed with refused | ⟨a, t, ran, second⟩
  · exact absurd malformed (head s e refused)
  · rw [(Op.bind_of_yields ran).2]
    exact tail a t ran e second malformed

private theorem judged_of_sober {op : MachineOp α} (sober : Sober op) : Judged late op s :=
  fun e failed malformed => absurd malformed (sober s e failed)

private theorem judged_fail {e : MachineError} (timely : ¬ late e) : Judged late (Op.fail e : MachineOp α) s := by
  rintro _ ⟨⟩ _
  exact ⟨fun _ => timely, fun _ => Op.Transition.refl s⟩

/-- A blame that comes late comes after work. -/
theorem judged_of_lapses {op : MachineOp α} (lapses : Lapses late s.work op s) : Judged late op s := by
  intro e failed malformed
  obtain ⟨isLate, more⟩ := lapses e failed malformed
  exact ⟨fun untouched => absurd untouched.work (Nat.ne_of_lt more), fun timely => absurd isLate timely⟩

/-- Checks come first. -/
theorem judged_bind {first : MachineOp α} {next : α → MachineOp β} {P : α → Session → Prop}
    (head : Op.Serves first Untouched (fun _ e => ¬ late e) P s)
    (tail : ∀ a t, s.Untouched t → P a t → Judged late (next a) t) : Judged late (first >>= next) s := by
  intro e failed malformed
  rcases Op.bind_failed failed with refused | ⟨a, t, ran, second⟩
  · rw [(Op.bind_of_failed refused).2]
    exact ⟨fun _ => head.error e refused, fun _ => head.state⟩
  · obtain ⟨untouched, holds⟩ := head.yields ran
    have judged := tail a t untouched holds e second malformed
    rw [(Op.bind_of_yields ran).2]
    refine Iff.trans ⟨fun same => ?_, fun same => ?_⟩ judged
    · exact Op.Transition.trans untouched.symm same
    · exact Op.Transition.trans untouched same

private theorem judged_get {next : Session → MachineOp α} (tail : Judged late (next s) s) :
    Judged late (Op.get >>= next) s := tail

private theorem judged_ofExcept_bind {r : Except MachineError α} {next : α → MachineOp β}
    (timely : ∀ e, r = .error e → ¬ late e) (tail : ∀ a, r = .ok a → Judged late (next a) s) :
    Judged late (Op.ofExcept r >>= next) s := by
  cases r with
  | error e => exact judged_fail (timely e rfl)
  | ok a => exact tail a rfl

/-- The operation is judged before, and what follows it works or fails for something else. -/
theorem judged_then {first : MachineOp α} {next : α → MachineOp β} (head : Judged late first s)
    (tail : ∀ a t, Op.Yields first s a t → Lapses late s.work (next a) t) :
    Judged late (first >>= next) s := by
  intro e failed malformed
  rcases Op.bind_failed failed with refused | ⟨a, t, ran, second⟩
  · rw [(Op.bind_of_failed refused).2]
    exact head e refused malformed
  · obtain ⟨isLate, more⟩ := tail a t ran e second malformed
    rw [(Op.bind_of_yields ran).2]
    exact ⟨fun untouched => absurd untouched.work (Nat.ne_of_lt more), fun timely => absurd isLate timely⟩

private theorem judged_then_succeeds {first : MachineOp α} {next : α → MachineOp β} (head : Judged late first s)
    (tail : ∀ a, Op.Succeeds (next a)) : Judged late (first >>= next) s :=
  judged_then head fun a _ _ => lapses_of_sober (sober_of_succeeds (tail a))

private theorem judged_ite {c : Prop} [Decidable c] {yes no : MachineOp α} (left : c → Judged late yes s)
    (right : ¬ c → Judged late no s) : Judged late (if c then yes else no) s := by
  split
  · next holds => exact left holds
  · next fails => exact right fails

/-! ### Event lists -/

/-- With dependencies on, the list that is named is one of the machine's. -/
def Listed (s : Session) (list : Option UInt32) : Prop :=
  s.machine.config.useDependencies = true → Inside s.machine.lists.size list

/-- Whoever asks for the events of a list finds out whether the list is there. -/
theorem asked_waitList (list : Option UInt32) :
    Op.Serves (waitList list) Untouched (fun _ e => ¬ s.Unasked e) (fun _ t => t = s ∧ Listed s list) s := by
  refine Op.serves_get (Op.serves_ofExcept ?_ ?_)
  · rintro e failed ⟨off, _⟩
    rw [off] at failed
    cases list <;> cases failed
  · refine fun events found => ⟨rfl, fun on index named => ?_⟩
    subst named
    rw [on] at found
    exact (List.getElem?_eq_some_iff.1 (EventLists.get_ok_iff.1 found)).1

/-- A list that was named and cannot be emptied is not there, and nobody has asked for it. -/
theorem unasked_of_reset {list : Option UInt32} {e : MachineError} (listed : Listed s list)
    (lists : t.machine.lists = s.machine.lists)
    (failed : (resetList list t).result = .error e) : s.Unasked e := by
  have refused : s.machine.lists.reset (list.map UInt32.toNat) = .error e := by
    rw [← lists]
    rcases emptied : t.machine.lists.reset (list.map UInt32.toNat) with e' | lists <;>
      simp only [resetList, Op.step, emptied, Except.map] at failed <;> cases failed
    rfl
  cases list with
  | none => cases refused
  | some index =>
    by_cases inside : index.toNat < s.machine.lists.size
    · have found := EventLists.get_ok_iff.2 (List.getElem?_eq_getElem inside)
      rw [Option.map_some, EventLists.reset, found] at refused
      cases refused
    · have outside := EventLists.get_outside (Nat.le_of_not_lt inside)
      rw [Option.map_some, EventLists.reset, outside] at refused
      cases refused
      refine ⟨?_, _, _, rfl⟩
      rcases asked : s.machine.config.useDependencies with _ | _
      · rfl
      · exact absurd (listed asked index rfl) inside

private theorem serves_of_sober {op : MachineOp α} (moves : Op.Moves op (Via Advances)) (sober : Sober op) :
    Op.Serves op (Via Advances) (fun _ e => e.kind = .malformedProgram → late e) (fun _ _ => True) t :=
  ⟨moves t, fun e failed malformed => absurd malformed (sober t e failed), fun _ _ => trivial⟩

/-- The work is done, and the list of its consumer is to be emptied. -/
theorem lapses_resetList {list : Option UInt32} {rest : MachineOp α} (listed : Listed s list)
    (lists : t.machine.lists = s.machine.lists)
    (more : work < t.work) (moves : Op.Moves rest (Via Advances)) (sober : Sober rest) :
    Lapses s.Unasked work (resetList list >>= fun _ => rest) t := by
  have emptied : Op.Serves (resetList list) (Via Advances)
      (fun _ e => e.kind = .malformedProgram → s.Unasked e) (fun _ _ => True) t :=
    ⟨moves_resetList list t, fun e failed _ => unasked_of_reset listed lists failed, fun _ _ => trivial⟩
  have ended := Op.serves_bind emptied fun _ u _ _ => serves_of_sober moves sober
  exact fun e failed malformed => ⟨ended.error e failed malformed, Nat.lt_of_lt_of_le more ended.state⟩

/-! ### Instructions -/

/-- A look-up that is about something else comes in time. -/
theorem judged_lookup {r : Except MachineError α} {next : α → MachineOp β} (harmless : Harmless r)
    (tail : ∀ a, r = .ok a → Judged s.Unasked (next a) s) : Judged s.Unasked (Op.ofExcept r >>= next) s :=
  judged_ofExcept_bind (fun e failed late => harmless e failed late.2) tail

private theorem judged_alloc (batchSize : Nat) (objects : List UInt32) :
    Judged s.Unasked (alloc batchSize objects) s := by
  refine judged_get (judged_lookup (harmless_bufferRequests _ _ _ _ _) fun requests _ => ?_)
  refine judged_of_sober (sober_ite (sober_pure _) (sober_bind (sober_ofExcept ?_) fun _ => ?_))
  · intro e failed
    unfold MemoryBudget.check at failed
    split at failed
    · cases failed
    · split at failed <;> cases failed
      nofun
  refine sober_bind (sober_onDevice _) fun buffers => sober_bind (sober_modify _) fun _ => ?_
  exact sober_bind (sober_bindAll _) fun _ => sober_emit _

private theorem judged_dealloc (object : Nat) : Judged s.Unasked (dealloc object) s := by
  refine judged_get (judged_lookup (harmless_object _ _) fun entry _ => ?_)
  refine judged_lookup (harmless_get _ _) fun binding _ => ?_
  refine judged_of_sober ?_
  split
  · exact sober_ite (sober_bind (sober_pure _) fun _ => sober_pure _)
      (sober_bind (sober_emit _) fun _ => sober_pure _)
  · refine sober_bind (sober_onDevice _) fun freed => sober_bind (sober_modify _) fun _ => ?_
    exact sober_bind (sober_modify _) fun _ => sober_bind (sober_emit _) fun _ => sober_pure _

private theorem judged_barrier (list : Option UInt32) : Judged s.Unasked (barrier list) s := by
  refine judged_bind (asked_waitList list) fun wait t _ known => ?_
  obtain ⟨rfl, listed⟩ := known
  refine judged_of_lapses (lapses_bind (sober_onDevice _) fun marker u ran => ?_)
  obtain ⟨device, marked, rfl⟩ := Op.yields_onPart.1 ran
  have more := (Device.toils_enqueueMarker wait).works _ _ _ (Op.yields_mapError.1 marked)
  refine lapses_bind (sober_emit _) fun _ v noted => ?_
  rw [← Op.yields_emit.1 noted]
  exact lapses_resetList listed rfl more (Op.moves_pure _) (sober_pure _)

/-- The copy is left out when it is asked for once: the buffer has received the whole object. -/
def LeavesOut (s : Session) (t : Transfer) : Prop :=
  t.batchSize = 0 ∧ contentOf s t.object.toNat = true

/-- When nothing is done, it is not too late to find the list missing. -/
theorem judged_leftOut {t : Transfer} (leftOut : LeavesOut s t) : Judged (fun _ => False) (transferIn t true) s := by
  have refused : Op.Refuses (resetList t.list) := Op.refuses_step _
  intro e failed _
  refine ⟨fun _ => not_false, fun _ => ?_⟩
  have same : (transferIn t true s).state = s := by
    rcases transferIn_lookup t s with ⟨entry, b, _, asked⟩ | ⟨result, asked, _⟩
    · rw [asked, if_pos ⟨rfl, leftOut⟩] at failed ⊢
      exact refused s e failed
    · rw [asked]
  rw [same]
  exact Op.Transition.refl s

private theorem judged_transferIn {t : Transfer} {once : Bool} (due : once = true → ¬ LeavesOut s t) :
    Judged s.Unasked (transferIn t once) s := by
  refine judged_get (judged_lookup (harmless_object _ _) fun entry _ => ?_)
  refine judged_ite (fun _ => judged_of_sober (sober_pure _)) fun _ => ?_
  refine judged_lookup (harmless_boundBuffer _ _ _) fun buffer _ => ?_
  refine judged_lookup (harmless_get _ _) fun binding got => judged_ite (fun leftOut => ?_) fun _ => ?_
  · obtain ⟨asked, whole, content⟩ := leftOut
    have marked : contentOf s t.object.toNat = true := by
      rw [contentOf, Bindings.get_ok_iff.1 got]
      exact content
    exact absurd ⟨whole, marked⟩ (due asked)
  refine judged_lookup (harmless_transferRange _ _) fun range _ => ?_
  refine judged_bind (asked_waitList t.list) fun wait u _ known => ?_
  obtain ⟨rfl, listed⟩ := known
  refine judged_of_lapses (lapses_bind (sober_onDevice _) fun events v ran => ?_)
  obtain ⟨device, copied, rfl⟩ := Op.yields_onPart.1 ran
  have more := (Device.toils_streamIn _ _ _ _).works _ _ _ (Op.yields_mapError.1 copied)
  have measured : Op.Moves (profileTransfer events .copyIn .copyInBytes t.object.toNat range.size) (Via Advances) :=
    moves_profileTransfer _ _ _ _ _
  have rest (m : Machine) (lists : m.lists = u.machine.lists) :
      Lapses u.Unasked u.work (do
        resetList t.list
        profileTransfer events .copyIn .copyInBytes t.object.toNat range.size) ⟨u.context, device, m⟩ :=
    lapses_resetList listed lists more measured (sober_profileTransfer _ _ _ _ _)
  split
  · refine lapses_bind (sober_modify _) fun _ v noted => ?_
    rw [← Op.yields_modify.1 noted]
    exact rest _ rfl
  · exact rest _ rfl

private theorem judged_transferOut (t : Transfer) (blocking : Bool) : Judged s.Unasked (transferOut t blocking) s := by
  refine judged_get (judged_lookup (harmless_object _ _) fun entry _ => ?_)
  refine judged_ite (fun _ => judged_of_sober (sober_pure _)) fun _ => ?_
  refine judged_lookup (harmless_boundBuffer _ _ _) fun buffer _ => ?_
  refine judged_lookup (harmless_transferRange _ _) fun range _ => ?_
  refine judged_bind (asked_waitList t.list) fun wait u _ known => ?_
  obtain ⟨rfl, listed⟩ := known
  refine judged_of_lapses (lapses_bind (sober_onPart _) fun event v ran => ?_)
  obtain ⟨⟨object, device⟩, copied, rfl⟩ := Op.yields_onPart.1 ran
  have copied := Op.yields_mapError.1 copied
  have more : u.device.counters.deviceWork < device.counters.deviceWork := by
    split at copied
    · have worked := Device.works_streamOutBlocking copied
      exact worked
    · have worked := Device.works_streamOut copied
      exact worked
  have measured : Op.Moves (profileTransfer [event] .copyOut .copyOutBytes t.object.toNat range.size) (Via Advances) :=
    moves_profileTransfer _ _ _ _ _
  refine lapses_resetList listed rfl more ?_ ?_
  · exact Op.moves_bind measured fun _ => Op.moves_pure _
  · exact sober_bind (sober_profileTransfer _ _ _ _ _) fun _ => sober_pure _

/-! ### Launches -/

/-- When the machine is up to date with the device, a compilation is about binaries only. -/
theorem untouched_compile (l : Launch) (current : s.device.epoch = s.machine.epoch) :
    Op.Serves (compile l) Untouched (fun _ e => ¬ s.Unasked e) (fun _ _ => True) s := by
  have covered := covered_compile l s ⟨rfl, rfl⟩
  refine ⟨?_, fun e failed late => covered.error e failed late.2, fun _ _ => trivial⟩
  rw [compile_current current]
  exact Session.untouched_of_alike (alike_fitCode l s)

private theorem judged_bindLaunch (l : Launch) : Judged s.Unasked (bindLaunch l) s := by
  refine judged_get (judged_lookup (harmless_task _ _) fun task _ => ?_)
  have unbound : Op.Serves (Session.modifyMachine fun m => { m with frames := m.frames.erase l.wrapper })
      Untouched (fun _ e => ¬ s.Unasked e) (fun _ t => t.Unasked = s.Unasked) s :=
    Op.serves_modify (Op.Transition.refl (R := Session.Alike) _) rfl
  refine judged_bind unbound fun _ t _ same => ?_
  rw [← same]
  refine judged_lookup (harmless_bindArgs _ _ _ _ _) fun bound _ => ?_
  refine judged_bind (asked_waitList l.list) fun wait u _ _ => judged_of_sober ?_
  exact sober_bind (sober_sendAtomics _) fun _ => sober_pure _

private theorem sendAtomics_machine {values : List Int32} {sent : Option DeviceBuffer × List EventId}
    (ran : Op.Yields (sendAtomics values) s sent t) : t.machine = s.machine := by
  unfold sendAtomics at ran
  split at ran
  · rw [← (Op.yields_pure.1 ran).2]
  · obtain ⟨written, u, wrote, ran⟩ := Op.yields_bind.1 ran
    obtain ⟨device, _, rfl⟩ := Op.yields_onPart.1 wrote
    rw [← (Op.yields_pure.1 ran).2]

/-- Binding the arguments leaves the event lists alone, and finds the list of the launch. -/
theorem bindLaunch_lists {l : Launch} {b : BoundLaunch} (bound : Op.Yields (bindLaunch l) s b t) :
    Listed s l.list ∧ t.machine.lists = s.machine.lists := by
  simp only [bindLaunch, Session.modifyMachine, Op.yields_bind, Op.yields_get, Op.yields_ofExcept,
    Op.yields_modify, Op.yields_pure] at bound
  obtain ⟨_, _, ⟨rfl, rfl⟩, task, _, ⟨_, rfl⟩, _, _, rfl, frame, _, ⟨_, rfl⟩, wait, u, asked, rest⟩ := bound
  obtain ⟨sent, v, written, _, rfl⟩ := rest
  obtain ⟨_, rfl, listed⟩ := (asked_waitList l.list).yields asked
  exact ⟨listed, by rw [sendAtomics_machine written]⟩

private theorem kind_forTask {e : MachineError} (sound : e.kind ≠ .malformedProgram) (task : String) :
    (e.forTask task).kind ≠ .malformedProgram := by
  unfold MachineError.forTask
  split
  · nofun
  · exact sound

private theorem lapses_enqueue {l : Launch} {code : Binary} {b : BoundLaunch} (listed : Listed s l.list)
    (lists : t.machine.lists = s.machine.lists) (kept : work ≤ t.work) :
    Lapses s.Unasked work (enqueue l code b) t := by
  have attempted : Op.Succeeds (Op.attempt (Session.onDevice
      (Device.launch code b.frame b.atomics b.grid l.offset.toNat b.wait)) :
        MachineOp (Except MachineError EventId)) := fun _ => ⟨_, rfl⟩
  refine lapses_bind (sober_of_succeeds attempted) fun launched u ran => ?_
  obtain ⟨result, state⟩ := Op.yields_attempt.1 ran
  refine lapses_bind (sober_modify _) fun _ v noted => ?_
  rw [← Op.yields_modify.1 noted]
  cases launched with
  | error e => exact lapses_of_sober (sober_fail (kind_forTask (sober_onDevice _ _ e result) _))
  | ok event =>
    obtain ⟨device, launched, rfl⟩ := Op.yields_onPart.1 ⟨result, state⟩
    have more := (Device.toils_launch _ _ _ _ _ _).works _ _ _ (Op.yields_mapError.1 launched)
    refine lapses_resetList listed lists (Nat.lt_of_le_of_lt kept more) (moves_measureLaunch b.task.id event) ?_
    refine sober_get_bind fun s => sober_ite ?_ (sober_pure _)
    refine sober_bind (sober_modify _) fun _ => sober_bind (sober_onDevice _) fun _ => ?_
    refine sober_bind (sober_onDevice _) fun profile => ?_
    exact sober_bind (sober_modify _) fun _ => sober_pure _

private theorem judged_dispatch (l : Launch) : Judged s.Unasked (dispatch l) s := by
  have found : Op.Serves (installedCode l) Untouched (fun _ e => ¬ s.Unasked e) (fun _ t => t = s) s := by
    refine Op.serves_get (Op.serves_ofExcept_bind ?_ fun task _ => Op.serves_ofExcept ?_ fun _ _ => rfl)
    · exact fun e failed late => harmless_task _ _ e failed late.2
    · rintro _ failed ⟨_, _, _, rfl⟩
      split at failed <;> cases failed
  refine judged_bind found fun code t _ same => ?_
  subst same
  refine judged_then (judged_bindLaunch l) fun b u bound => ?_
  obtain ⟨listed, lists⟩ := bindLaunch_lists bound
  exact lapses_enqueue listed lists ((moves_bindLaunch (R := Via Advances) l).yields bound)

private theorem judged_addDependency (last : Option EventId) (list : Option UInt32) :
    Judged s.Unasked (addDependency last list) s := by
  refine judged_get ?_
  split
  · next event index on =>
    intro e failed _
    refine ⟨fun _ late => ?_, fun _ => ?_⟩
    · cases late.1.symm.trans on
    · rw [Op.refuses_step _ s e failed]
      exact Op.Transition.refl s
  · exact judged_of_sober (sober_pure _)

private theorem judged_keepOnDevice (object : Nat) : Judged s.Unasked (keepOnDevice object) s :=
  judged_get (judged_lookup (harmless_object _ _) fun _ _ => judged_of_sober (sober_emit _))

/-- An instruction where it does not belong. -/
theorem timely_misplaced (opcode : Opcode) (offset : Nat) :
    ¬ s.Unasked (.malformed (.afterBegin opcode offset)) := by
  rintro ⟨_, _, _, same⟩
  cases same

/-- Nobody has asked for the event list that an instruction misses, and its work is done when it does. -/
def Overlooks (s : Session) (next : Option Entry) (e : MachineError) : Prop :=
  s.Unasked e ∧ ∀ offset t, next = some ⟨offset, .transfer .inOnce t⟩ → ¬ LeavesOut s t

private theorem judged_congr {late' : MachineError → Prop} {op : MachineOp α} (same : ∀ e, late e ↔ late' e)
    (judged : Judged late op s) : Judged late' op s := by
  intro e failed malformed
  rw [← same]
  exact judged e failed malformed

private theorem judged_runInstruction (last : Option EventId) (offset : Nat) {i : Instruction}
    (current : s.device.epoch = s.machine.epoch) (due : ∀ t, i = .transfer .inOnce t → ¬ LeavesOut s t) :
    Judged s.Unasked (runInstruction last offset i) s := by
  have ended {α β : Type} {op : MachineOp α} {b : β} (judged : Judged s.Unasked op s) :
      Judged s.Unasked (op >>= fun _ => (pure b : MachineOp β)) s :=
    judged_then_succeeds judged fun _ => Op.succeeds_pure _
  cases i with
  | alloc batchSize objects => exact ended (judged_alloc _ _)
  | dealloc object => exact ended (judged_dealloc _)
  | transfer kind t =>
    cases kind with
    | inOnce => exact ended (judged_transferIn fun _ => due t rfl)
    | inAlways => exact ended (judged_transferIn nofun)
    | outAlways => exact judged_transferOut _ _
    | outBlocking => exact ended (judged_transferOut _ _)
  | launch l =>
    refine judged_bind (untouched_compile l current) fun _ t untouched _ => ?_
    have same : s.Unasked = t.Unasked := untouched.view Session.Unasked fun _ => rfl
    rw [same]
    exact judged_then_succeeds (judged_dispatch l) fun _ => Op.succeeds_pure _
  | addDependency list => exact ended (judged_addDependency _ _)
  | onDevice object => exact ended (judged_keepOnDevice _)
  | barrier list => exact judged_then_succeeds (judged_barrier _) fun _ => Op.succeeds_pure _
  | context device => exact judged_fail (timely_misplaced _ _)
  | beginPass => exact judged_fail (timely_misplaced _ _)
  | endPass => exact judged_of_sober (sober_pure _)

/-- A warmup only compiles. -/
theorem untouched_warmInstruction (offset : Nat) (i : Instruction) (current : s.device.epoch = s.machine.epoch) :
    Op.Serves (warmInstruction offset i) Untouched (fun _ e => ¬ s.Unasked e) (fun _ _ => True) s := by
  cases i with
  | launch l => exact untouched_compile l current
  | context device => exact Op.serves_fail (timely_misplaced _ _)
  | beginPass => exact Op.serves_fail (timely_misplaced _ _)
  | _ => exact Op.serves_pure trivial

/-- One instruction. -/
theorem judged_stepEntry (warmup : Bool) (last : Option EventId) (entry : Entry)
    (current : s.device.epoch = s.machine.epoch) :
    Judged (Overlooks s (some entry)) (stepEntry warmup last entry) s := by
  obtain ⟨offset, i⟩ := entry
  cases warmup with
  | true =>
    have warmed := Op.serves_bind (untouched_warmInstruction offset i current) fun _ _ _ _ =>
      Op.serves_pure (a := last) (P := fun _ _ => True) trivial
    exact fun e failed _ => ⟨fun _ overlooks => warmed.error e failed overlooks.1, fun _ => warmed.state⟩
  | false =>
    by_cases leftOut : ∃ t, i = .transfer .inOnce t ∧ LeavesOut s t
    · obtain ⟨t, rfl, leftOut⟩ := leftOut
      have judged : Judged (fun _ => False) (runInstruction last offset (.transfer .inOnce t)) s :=
        judged_then_succeeds (judged_leftOut leftOut) fun _ => Op.succeeds_pure _
      refine judged_congr (fun e => ⟨False.elim, fun overlooks => ?_⟩) judged
      exact overlooks.2 offset t rfl leftOut
    · have due (t : Transfer) (same : i = .transfer .inOnce t) : ¬ LeavesOut s t :=
        fun content => leftOut ⟨t, same, content⟩
      refine judged_congr (fun e => ⟨fun late => ⟨late, ?_⟩, And.left⟩) (judged_runInstruction last offset current due)
      rintro _ t ⟨⟩
      exact due t rfl

/-! ### Passes -/

/-- The machine is up to date with the device. -/
def Current (s t : Session) : Prop :=
  s.device.epoch = s.machine.epoch → t.device.epoch = t.machine.epoch

instance : Op.Transition Current where
  refl _ := id
  trans first second := second ∘ first

private theorem current_of_keeps (s t : Session) (kept : Session.Keeps s t) : Current s t := by
  intro current
  rw [kept.frames.device.epoch, kept.frames.epoch, current]

private theorem current_compile (l : Launch) : Op.Moves (compile l) Current := by
  intro s current
  rw [compile_current current]
  have same := alike_fitCode l s
  rw [← Session.alike_view (fun s => s.device.epoch) (fun _ => rfl) same, current]
  exact Session.alike_view (fun s => s.machine.epoch) (fun _ => rfl) same

/-- Wherever a pass has got to, the machine is up to date with the device. -/
theorem current_of_arrived {warmup : Bool} {done : List Entry} {last : Option EventId}
    (arrived : Op.Yields (do startPass; runPrefix warmup none done) s last t) :
    t.device.epoch = t.machine.epoch := by
  obtain ⟨_, u, started, ran⟩ := Op.yields_bind.1 arrived
  have begun : u.device.epoch = u.machine.epoch := by
    obtain ⟨_, v, _, synced⟩ := Op.yields_bind.1 started
    rcases yields_syncEpoch.1 synced with ⟨current, rfl⟩ | ⟨_, _, rfl⟩
    · exact current
    · rfl
  exact (survives_runPrefix current_of_keeps current_compile warmup none done).yields ran begun

/-- The instruction in front of which a pass comes to its end with an error, if it can be decoded, and where
the session is then. -/
inductive StopsAt (warmup : Bool) (s : Session) (e : MachineError) : Option Entry → Session → Prop where
  | refused {done rest : List Entry} {entry : Entry} {last : Option EventId} {t : Session}
      (split : s.machine.program.scan.entries = done ++ entry :: rest)
      (arrived : Op.Yields (do startPass; runPrefix warmup none done) s last t)
      (refused : (stepEntry warmup last entry t).result = .error e) : StopsAt warmup s e (some entry) t
  | undecodable {d : DecodeError} {last : Option EventId} {t : Session}
      (stop : s.machine.program.scan.stop = .failed d)
      (arrived : Op.Yields (do startPass; runPrefix warmup none s.machine.program.scan.entries) s last t)
      (blames : e = .decode d) : StopsAt warmup s e none t

/-- A pass that blames the program has come to an instruction that does so, or to bytes that are none. -/
theorem stops_of_runEntries {warmup : Bool} {stop : ScanStop} {last : Option EventId} {entries : List Entry}
    {e : MachineError} (failed : (runEntries warmup stop last entries s).result = .error e)
    (malformed : e.kind = .malformedProgram) :
    (∃ done entry rest last' t, entries = done ++ entry :: rest ∧
        Op.Yields (runPrefix warmup last done) s last' t ∧ (stepEntry warmup last' entry t).result = .error e) ∨
      ∃ d last' t, stop = .failed d ∧ Op.Yields (runPrefix warmup last entries) s last' t ∧ e = .decode d := by
  induction entries generalizing s last with
  | nil =>
    unfold runEntries at failed
    cases stop with
    | failed d =>
      cases failed
      exact .inr ⟨d, last, s, rfl, Op.yields_pure.2 ⟨rfl, rfl⟩, rfl⟩
    | _ => exact absurd malformed (sober_endPass warmup s e failed)
  | cons entry rest ih =>
    have traced : Op.Yields (traceEntry warmup entry) s () s := traceEntry_yields
    unfold runEntries at failed
    rw [(Op.bind_of_yields traced).1] at failed
    split at failed
    · exact absurd malformed (sober_endPass warmup s e failed)
    rcases Op.bind_failed failed with refused | ⟨next, u, stepped, later⟩
    · exact .inl ⟨[], entry, rest, last, s, rfl, Op.yields_pure.2 ⟨rfl, rfl⟩, refused⟩
    have onward {done : List Entry} {last' : Option EventId} {t : Session}
        (ran : Op.Yields (runPrefix warmup next done) u last' t) :
        Op.Yields (runPrefix warmup last (entry :: done)) s last' t :=
      Op.yields_bind.2 ⟨(), s, traced, Op.yields_bind.2 ⟨next, u, stepped, ran⟩⟩
    rcases ih later with ⟨done, entry', rest', last', t, rfl, ran, refused⟩ | ⟨d, last', t, stop, ran, blames⟩
    · exact .inl ⟨entry :: done, entry', rest', last', t, rfl, onward ran, refused⟩
    · exact .inr ⟨d, last', t, stop, onward ran, blames⟩

theorem startPass_program (started : Op.Yields startPass s () t) :
    t.machine.program = s.machine.program :=
  ((survives_startPass continues_of_keeps continues_syncEpoch).yields started).program

private theorem stopsAt_of_failed {warmup : Bool} {e : MachineError} (failed : (pass warmup s).result = .error e)
    (malformed : e.kind = .malformedProgram) : ∃ next t, StopsAt warmup s e next t := by
  rcases Op.bind_failed failed with refused | ⟨_, u, started, ran⟩
  · exact absurd malformed (sober_bind (sober_modify _) (fun _ => sober_syncEpoch) s e refused)
  have program := startPass_program started
  rcases stops_of_runEntries ran malformed with ⟨done, entry, rest, last, t, split, ran, refused⟩ |
      ⟨d, last, t, stop, ran, blames⟩
  · rw [program] at split
    exact ⟨_, t, .refused split (Op.yields_bind.2 ⟨(), u, started, ran⟩) refused⟩
  · rw [program] at stop ran
    exact ⟨_, t, .undecodable stop (Op.yields_bind.2 ⟨(), u, started, ran⟩) blames⟩

/-- Where a pass stops it ends, with what became of the instruction. -/
theorem StopsAt.judged {warmup : Bool} {e : MachineError} {next : Option Entry} (stops : StopsAt warmup s e next t)
    (malformed : e.kind = .malformedProgram) : t.Untouched (pass warmup s).state ↔ ¬ Overlooks t next e := by
  cases stops with
  | @refused done rest entry last _ split arrived refused =>
    obtain ⟨_, u, started, ran⟩ := Op.yields_bind.1 arrived
    rw [← startPass_program started] at split
    have ordinary : entry.instruction ≠ .endPass := by
      intro ends
      obtain ⟨offset, i⟩ := entry
      cases ends
      cases warmup <;> cases refused
    have state : (pass warmup s).state = (stepEntry warmup last entry t).state := by
      unfold pass
      rw [(Op.bind_of_yields started).2, runProgram_split split, (Op.bind_of_yields ran).2]
      unfold runEntries
      rw [(Op.bind_of_yields traceEntry_yields).2, if_neg ordinary, (Op.bind_of_failed refused).2]
    rw [state]
    exact judged_stepEntry warmup last entry (current_of_arrived arrived) e refused malformed
  | @undecodable d last _ stop arrived blames =>
    obtain ⟨_, u, started, ran⟩ := Op.yields_bind.1 arrived
    rw [← startPass_program started] at stop ran
    have ordinary := Cursor.scan_ordinary (c := u.machine.program) (fun ended => by rw [stop] at ended; cases ended)
    have state : (pass warmup s).state = t := by
      have all : runProgram warmup u = (do
          let last ← runPrefix warmup none u.machine.program.scan.entries
          runEntries warmup u.machine.program.scan.stop last []) u := by
        rw [← runEntries_append _ _ _ _ _ ordinary, List.append_nil]
        rfl
      unfold pass
      rw [(Op.bind_of_yields started).2, all, (Op.bind_of_yields ran).2, stop]
      rfl
    rw [state, blames]
    refine ⟨fun _ overlooks => ?_, fun _ => Op.Transition.refl t⟩
    obtain ⟨_, _, same⟩ := overlooks.1.2
    cases same

/-- Whatever mode a pass is in: when it ends because the program is malformed it has come to an instruction
that is, or to bytes that are no instruction, and that one leaves everything as it was before it, if and
only if it is not found out too late. -/
theorem refusal_untouched_iff {mode : Mode} {e : MachineError} (failed : (execute mode s).result = .error e)
    (malformed : e.kind = .malformedProgram) :
    (∃ next t, StopsAt (mode = .warmup || s.machine.config.virtualDevice) s e next t) ∧
      ∀ next t, StopsAt (mode = .warmup || s.machine.config.virtualDevice) s e next t →
        (t.Untouched (execute mode s).state ↔ ¬ Overlooks t next e) := by
  rcases within : s.context.memory.exceeded with _ | _
  · obtain ⟨result, state⟩ := execute_within mode within
    rw [failed] at result
    refine ⟨stopsAt_of_failed result.symm malformed, fun next t stops => ?_⟩
    rw [state, ← result]
    exact stops.judged malformed
  · rw [(execute_exceeded mode within).1] at failed
    cases failed
    cases malformed

end Machine

namespace Workspace
open Machine (StopsAt Overlooks)

/-- The events of a list 5 are asked for. -/
def awaiting : Transfer :=
  { object := 0, list := some 5, offset := 0, batchSize := 0 }

/-- A machine whose program copies an object to the device behind event list 5. Its header declares none. -/
def undeclared (useDependencies : Bool) : Workspace :=
  let instructions : List Instruction :=
    [.context 0, .beginPass, .alloc 0 [0], .transfer .inAlways awaiting, .endPass]
  let program := Bytes.zeros 12 ++ instructions.flatMap Instruction.encode
  let start : Workspace :=
    { context := { name := "undeclared", objects := [{ object := .array (.zeroed .i32 1) }] }, devices := [{}] }
  (start.build 0 program { useDependencies }).state

private theorem undeclared_reachable (useDependencies : Bool) : (undeclared useDependencies).Reachable :=
  .step (.start _ _ rfl) (.build _ 0 _ _)

/-- Its passes stop at the copy. -/
theorem undeclared_stops (useDependencies : Bool) : ∃ s t,
    (undeclared useDependencies).session? 0 = some (0, s) ∧
      (Machine.execute .run s).result = .error (.malformed (.listOutOfRange 5 0)) ∧
      s.machine.config.virtualDevice = false ∧ s.context.memory.exceeded = false ∧
      t.machine.config.useDependencies = useDependencies ∧
      StopsAt false s (.malformed (.listOutOfRange 5 0)) (some ⟨35, .transfer .inAlways awaiting⟩) t := by
  have ran : ((undeclared useDependencies).session? 0).any (fun seated =>
      (Op.success? (do Machine.startPass; Machine.runPrefix false none [⟨18, .alloc 0 [0]⟩]) seated.2).any fun front =>
        seated.1 = 0 ∧ Op.failure? (Machine.execute .run) seated.2 = some (.malformed (.listOutOfRange 5 0)) ∧
          seated.2.machine.config.virtualDevice = false ∧ seated.2.context.memory.exceeded = false ∧
          front.2.machine.config.useDependencies = useDependencies ∧
          seated.2.machine.program.scan.entries =
            [⟨18, .alloc 0 [0]⟩, ⟨35, .transfer .inAlways awaiting⟩, ⟨60, .endPass⟩] ∧
          Op.failure? (Machine.stepEntry false front.1 ⟨35, .transfer .inAlways awaiting⟩) front.2 =
            some (.malformed (.listOutOfRange 5 0))) = true := by
    cases useDependencies <;> decide +kernel
  obtain ⟨⟨index, s⟩, present, ran⟩ := (Option.any_eq_true _ _).1 ran
  obtain ⟨⟨last, t⟩, arrived, same⟩ := (Option.any_eq_true _ _).1 ran
  obtain ⟨rfl, failed, real, within, asked, entries, refused⟩ := of_decide_eq_true same
  refine ⟨s, t, present, Op.failed_iff_failure?.2 failed, real, within, asked, ?_⟩
  exact .refused entries (Op.yields_iff_success?.2 arrived) (Op.failed_iff_failure?.2 refused)

/-- With dependencies on, the copy leaves everything as it was. -/
theorem undeclared_untouched : ∃ s next t, (undeclared true).session? 0 = some (0, s) ∧
    StopsAt false s (.malformed (.listOutOfRange 5 0)) next t ∧ t.Untouched (Machine.execute .run s).state := by
  obtain ⟨s, t, present, failed, real, _, asked, stops⟩ := undeclared_stops true
  have judged := (Machine.refusal_untouched_iff failed rfl).2 _ t (real ▸ stops)
  refine ⟨s, _, t, present, stops, judged.2 fun overlooks => ?_⟩
  cases asked.symm.trans overlooks.1.1

/-- So a malformed instruction is not always without effect. -/
theorem refusal_not_always_untouched : ¬ ∀ (w : Workspace) (seat index : Nat) (s : Session) (e : MachineError)
    (next : Option Entry) (t : Session), w.Reachable → w.session? seat = some (index, s) →
      (Machine.execute .run s).result = .error e → e.kind = .malformedProgram →
      StopsAt s.machine.config.virtualDevice s e next t → t.Untouched (Machine.execute .run s).state := by
  intro claim
  obtain ⟨s, t, present, failed, real, within, asked, stops⟩ := undeclared_stops false
  have untouched := claim _ 0 0 s _ _ t (undeclared_reachable false) present failed rfl (real ▸ stops)
  obtain ⟨result, state⟩ := Machine.execute_within .run within
  have ended : (Machine.execute .run s).state = (Machine.pass false s).state := by
    rw [state, ← result, failed, real]
    rfl
  have overlooks : Overlooks t (some ⟨35, .transfer .inAlways awaiting⟩) (.malformed (.listOutOfRange 5 0)) :=
    ⟨⟨asked, 5, 0, rfl⟩, nofun⟩
  exact (stops.judged rfl).1 (ended ▸ untouched) overlooks

end Workspace
end Offload
