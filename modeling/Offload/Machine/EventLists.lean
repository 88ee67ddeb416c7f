import Offload.Device.Types
import Offload.Machine.Error

/-!
Event lists: events are appended one by one, and a consumer takes all of a list and empties it. All
lists of a machine have the same capacity.
-/
namespace Offload

structure EventLists where
  lists : List (List EventId) := []
  capacity : Nat
  deriving Repr, DecidableEq

namespace EventLists

/-- `count` empty lists. -/
def create (count capacity : Nat) : EventLists :=
  ⟨List.replicate count [], capacity⟩

def size (e : EventLists) : Nat :=
  e.lists.length

def get (e : EventLists) (index : Nat) : Except MachineError (List EventId) :=
  match e.lists[index]? with
  | some list => .ok list
  | none => .error (.malformed (.listOutOfRange index e.lists.length))

/-- Append an event to a list that has room for it. -/
def push (e : EventLists) (index : Nat) (event : EventId) : Except MachineError EventLists := do
  let list ← e.get index
  if e.capacity ≤ list.length then .error (.listOverflow index e.capacity)
  else .ok { e with lists := e.lists.set index (list ++ [event]) }

/-- Empty a list; without one nothing happens. -/
def reset (e : EventLists) : Option Nat → Except MachineError EventLists
  | none => .ok e
  | some index => do
    let _ ← e.get index
    pure { e with lists := e.lists.set index [] }

def resetAll (e : EventLists) : EventLists :=
  { e with lists := e.lists.map fun _ => [] }

/-- The events that a consumer of a list waits for; none without a list, or when dependencies are
switched off. -/
def waitList (e : EventLists) (list : Option Nat) (useDependencies : Bool) :
    Except MachineError (List EventId) :=
  match list with
  | some index => if useDependencies then e.get index else .ok []
  | none => .ok []

variable {before after : EventLists} {index : Nat} {event : EventId} {events : List EventId}

theorem get_ok_iff : before.get index = .ok events ↔ before.lists[index]? = some events := by
  unfold get
  rcases before.lists[index]? with _ | list <;> simp

theorem get_outside (outside : before.size ≤ index) :
    before.get index = .error (.malformed (.listOutOfRange index before.size)) := by
  rw [get, List.getElem?_eq_none outside]
  rfl

/-- An event goes to the end of a list that has room. -/
theorem push_ok_iff : before.push index event = .ok after ↔
    ∃ events, before.lists[index]? = some events ∧ events.length < before.capacity ∧
      after = { before with lists := before.lists.set index (events ++ [event]) } := by
  unfold push get
  rcases before.lists[index]? with _ | events
  · simp [bind, Except.bind]
  · simp only [bind, Except.bind, Option.some.injEq, exists_eq_left']
    by_cases full : before.capacity ≤ events.length
    · simp [full, Nat.not_lt.2 full]
    · simp [full, Nat.not_le.1 full, eq_comm]

theorem reset_ok_iff {list : Option Nat} : before.reset list = .ok after ↔
    (list = none ∧ after = before) ∨
      ∃ index events, list = some index ∧ before.lists[index]? = some events ∧
        after = { before with lists := before.lists.set index [] } := by
  cases list with
  | none => simp [reset, eq_comm]
  | some index =>
    rcases found : before.lists[index]? with _ | events
    · simp [reset, get, found, bind, Except.bind]
    · simp [reset, get, found, bind, Except.bind, pure, Except.pure, @eq_comm _ after]

theorem capacity_push (ran : before.push index event = .ok after) :
    after.capacity = before.capacity := by
  obtain ⟨_, _, _, rfl⟩ := push_ok_iff.1 ran
  rfl

theorem capacity_reset {list : Option Nat} (ran : before.reset list = .ok after) :
    after.capacity = before.capacity := by
  obtain ⟨_, rfl⟩ | ⟨_, _, _, _, rfl⟩ := reset_ok_iff.1 ran <;> rfl

end EventLists
end Offload
