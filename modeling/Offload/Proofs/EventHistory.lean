import Offload.Device.Events

/-! Events as a table would know them that never drops one. It keeps the wait list of every event since
the last clear, a full marker's in full, and which commands are finished. Whether an event is complete
is said by the wait lists alone, and a wait goes through the events that are not complete yet. -/
namespace Offload

/-- What is true of an event for good. -/
structure EventEntry where
  command : Bool
  /-- The events that this one waits for. -/
  waits : List EventId

structure EventHistory where
  deferred : Bool
  /-- The id of the first event since the last clear. -/
  first : EventId := 1
  /-- The events since then, oldest first. -/
  entries : List EventEntry := []
  /-- The commands that took effect at once, or were completed by name or waited for. -/
  finished : EventId → Prop := fun _ => False

namespace EventHistory

variable {h h' : EventHistory} {id w x : EventId} {e : EventEntry}

def next (h : EventHistory) : EventId :=
  h.first + h.entries.length

/-- The event was handed out since the last clear. -/
def Issued (h : EventHistory) (id : EventId) : Prop :=
  h.first ≤ id ∧ id < h.next

instance (h : EventHistory) (id : EventId) : Decidable (h.Issued id) :=
  inferInstanceAs (Decidable (_ ∧ _))

def get? (h : EventHistory) (id : EventId) : Option EventEntry :=
  if h.first ≤ id then h.entries[id - h.first]? else none

/-- All events since the last clear. -/
def all (h : EventHistory) : List EventId :=
  List.range' h.first h.entries.length

/-- A command is complete once it is finished, a marker once all events are that it waits for. -/
inductive Complete (h : EventHistory) : EventId → Prop where
  | command {id : EventId} {e : EventEntry} (known : h.get? id = some e) (command : e.command = true)
      (finished : h.finished id) : Complete h id
  | marker {id : EventId} {e : EventEntry} (known : h.get? id = some e) (marker : e.command = false)
      (waits : ∀ w ∈ e.waits, Complete h w) : Complete h id

/-- The events that a wait for an event comes to. It does not look behind one that is complete. -/
inductive Reached (h : EventHistory) : EventId → EventId → Prop where
  | self (id : EventId) : Reached h id id
  | through {id w x : EventId} {e : EventEntry} (known : h.get? id = some e)
      (pending : ¬ h.Complete id) (waits : w ∈ e.waits) (rest : Reached h w x) : Reached h id x

/-! ### What can be asked for -/

def check (h : EventHistory) : List EventId → Except DeviceError Unit
  | [] => .ok ()
  | id :: rest => if h.Issued id then h.check rest else .error (.invalidEvent id)

/-- One more event, finished or not. -/
def add (h : EventHistory) (e : EventEntry) (finished : Prop) : EventHistory :=
  { h with entries := h.entries ++ [e], finished := fun id => h.finished id ∨ id = h.next ∧ finished }

def record (h : EventHistory) (wait : List EventId) : Except DeviceError (EventId × EventHistory) := do
  h.check wait
  pure (h.next, h.add ⟨true, wait⟩ (h.deferred = false))

/-- What a marker waits for: an empty list stands for everything so far. -/
def markerWaits (h : EventHistory) (wait : List EventId) : List EventId :=
  if wait.isEmpty then h.all else wait

def marker (h : EventHistory) (wait : List EventId) : Except DeviceError (EventId × EventHistory) := do
  h.check wait
  pure (h.next, h.add ⟨false, h.markerWaits wait⟩ False)

/-- Some more commands are finished. -/
def finish (h : EventHistory) (also : EventId → Prop) : EventHistory :=
  { h with finished := fun id => h.finished id ∨ also id }

def complete (h : EventHistory) (id : EventId) : Except DeviceError EventHistory := do
  h.check [id]
  pure (h.finish fun x => x = id)

def drain (h : EventHistory) (id : EventId) : Except DeviceError EventHistory := do
  h.check [id]
  pure (h.finish (h.Reached id))

def clear (h : EventHistory) : EventHistory :=
  { h with first := h.next, entries := [], finished := fun _ => False }

/-! ### Look-up -/

/-- The entry of an event stands at its distance from the first one. -/
theorem get?_first (h : EventHistory) (distance : Nat) :
    h.get? (h.first + distance) = h.entries[distance]? := by
  rw [get?, if_pos (Nat.le_add_right _ _), Nat.add_sub_cancel_left]

/-- The history knows an entry for each event that was issued. -/
theorem known_iff : (∃ e, h.get? id = some e) ↔ h.Issued id := by
  by_cases old : h.first ≤ id
  · obtain ⟨distance, rfl⟩ := Nat.exists_eq_add_of_le old
    rw [get?_first, ← Option.isSome_iff_exists, isSome_getElem?, Issued, next,
      Nat.add_lt_add_iff_left]
    simp [old]
  · simp [get?, Issued, old]

theorem issued_of_known (known : h.get? id = some e) : h.Issued id :=
  known_iff.1 ⟨e, known⟩

/-- All events are those that were issued. -/
theorem mem_all : id ∈ h.all ↔ h.Issued id := by
  simp [all, Issued, next, List.mem_range'_1]

/-- A wait list is good if each event in it was issued. -/
theorem check_ok_iff {wait : List EventId} : h.check wait = .ok () ↔ ∀ id ∈ wait, h.Issued id := by
  induction wait with
  | nil => simp [check]
  | cons id rest ih =>
    by_cases issued : h.Issued id <;> simp [check, issued, ih]

@[simp] theorem next_add (e : EventEntry) (finished : Prop) : (h.add e finished).next = h.next + 1 := by
  simp [next, add, Nat.add_assoc]

/-- An added entry has the next number; the others stay. -/
theorem get?_add (e : EventEntry) (finished : Prop) (id : EventId) :
    (h.add e finished).get? id = if id = h.next then some e else h.get? id := by
  by_cases old : h.first ≤ id
  · obtain ⟨distance, rfl⟩ := Nat.exists_eq_add_of_le old
    have later : (h.add e finished).get? (h.first + distance) = (h.entries ++ [e])[distance]? :=
      get?_first (h.add e finished) distance
    rw [later, get?_first, List.getElem?_append]
    simp only [next, Nat.add_left_cancel_iff]
    rcases Nat.lt_trichotomy distance h.entries.length with inside | last | beyond
    · rw [if_pos inside, if_neg (Nat.ne_of_lt inside)]
    · simp [last]
    · have past : 0 < distance - h.entries.length := Nat.sub_pos_of_lt beyond
      simp [Nat.not_lt_of_gt beyond, Nat.ne_of_gt beyond, Nat.ne_of_gt past]
  · have differ : id ≠ h.next := fun same => old (same ▸ Nat.le_add_right _ _)
    rw [if_neg differ, get?, get?, if_neg old]
    exact if_neg old

/-! ### Completion -/

/-- A command is complete once it is finished. -/
theorem complete_command (known : h.get? id = some e) (command : e.command = true) :
    h.Complete id ↔ h.finished id := by
  constructor
  · rintro (⟨_, _, finished⟩ | ⟨known', marker, _⟩)
    · exact finished
    · rw [known] at known'
      cases known'
      rw [command] at marker
      cases marker
  · exact .command known command

/-- A marker is complete once all its events are. -/
theorem complete_marker (known : h.get? id = some e) (marker : e.command = false) :
    h.Complete id ↔ ∀ w ∈ e.waits, h.Complete w := by
  constructor
  · rintro (⟨known', command, _⟩ | ⟨known', _, waits⟩) <;> rw [known] at known' <;> cases known'
    · rw [marker] at command
      cases command
    · exact waits
  · exact .marker known marker

theorem issued_of_complete (complete : h.Complete id) : h.Issued id := by
  cases complete with
  | command known _ _ => exact issued_of_known known
  | marker known _ _ => exact issued_of_known known

/-- The later history knows the events of the earlier one, and their finished commands are. -/
structure Extends (h h' : EventHistory) : Prop where
  entries : ∀ id e, h.get? id = some e → h'.get? id = some e
  finished : ∀ id, h.finished id → h'.finished id

/-- A complete event stays complete. -/
theorem Extends.complete (extended : Extends h h') (complete : h.Complete id) : h'.Complete id := by
  induction complete with
  | command known command finished =>
    exact .command (extended.entries _ _ known) command (extended.finished _ finished)
  | marker known marker _ ih => exact .marker (extended.entries _ _ known) marker ih

/-- A history is extended by an entry. -/
theorem extends_add (e : EventEntry) (finished : Prop) : Extends h (h.add e finished) where
  entries id known old := by
    have inside := (issued_of_known old).2
    rw [get?_add, if_neg (Nat.ne_of_lt inside), old]
  finished _ := .inl

/-- A history is extended by what is finished. -/
theorem extends_finish (also : EventId → Prop) : Extends h (h.finish also) where
  entries _ _ old := old
  finished _ := .inl

/-- Events wait for older ones, and only events are finished. -/
structure Ordered (h : EventHistory) : Prop where
  waits : ∀ id e, h.get? id = some e → ∀ w ∈ e.waits, h.first ≤ w ∧ w < id
  finished : ∀ id, h.finished id → id < h.next

/-- What an event waits for was issued before it. -/
theorem Ordered.issued (ordered : h.Ordered) (known : h.get? id = some e) (waits : w ∈ e.waits) :
    h.Issued w := by
  have issued := issued_of_known known
  have older := ordered.waits id e known w waits
  exact ⟨older.1, Nat.lt_trans older.2 issued.2⟩

/-- Nothing is out of order where nothing was issued. -/
theorem ordered_empty (entries : h.entries = []) (finished : ∀ id, ¬ h.finished id) : h.Ordered where
  waits id e known := by
    have issued := issued_of_known known
    rw [Issued, next, entries] at issued
    exact absurd issued.2 (Nat.not_lt.2 issued.1)
  finished id done := absurd done (finished id)

/-- What an issued event leads to was issued itself. -/
theorem Reached.issued (reached : h.Reached id x) (ordered : h.Ordered) (issued : h.Issued id) :
    h.Issued x := by
  induction reached with
  | self => exact issued
  | through known _ waits _ ih => exact ih (ordered.issued known waits)

/-- An entry that waits for issued events keeps the order. -/
theorem ordered_add (ordered : h.Ordered) (issued : ∀ w ∈ e.waits, h.Issued w) (finished : Prop) :
    (h.add e finished).Ordered where
  waits id e' known w member := by
    rw [get?_add] at known
    split at known
    · next same =>
      cases known
      exact same ▸ issued w member
    · exact ordered.waits id e' known w member
  finished id done := by
    rw [next_add]
    rcases done with old | ⟨rfl, _⟩
    · exact Nat.lt_succ_of_lt (ordered.finished id old)
    · exact Nat.lt_succ_self _

end EventHistory
end Offload
