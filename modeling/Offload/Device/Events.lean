import Offload.Device.Error
import Offload.Device.Types
import Offload.Table

/-!
The events of a device. Commands complete at once, or, on a device that defers completion, when they
are completed by name or waited for. A marker completes with the events it waits for; one with an
empty wait list is full: it waits for everything since the previous full marker, and for that marker.
Once a full marker is complete the older events are dropped from the table. Their ids stay good and
read as complete.
-/
namespace Offload

inductive EventKind where
  | write
  | read
  | launch
  | marker
  deriving Repr, DecidableEq

structure EventRecord where
  kind : EventKind
  complete : Bool
  /-- The events that this one waits for. -/
  deps : List EventId
  deriving Repr, DecidableEq

def EventRecord.isCommand (r : EventRecord) : Bool :=
  r.kind ≠ .marker

structure EventTable where
  deferred : Bool := false
  records : Table EventId EventRecord := {}
  nextId : EventId := 1
  /-- The events that a full marker would wait for. -/
  frontier : List EventId := []
  /-- The latest full marker, until the events before it are dropped. -/
  lastFull : Option EventId := none
  /-- The ids from here up to `retiredTo`, exclusive, were dropped after they completed. -/
  retiredFrom : EventId := 1
  retiredTo : EventId := 1
  deriving Repr, DecidableEq

namespace EventTable

/-- The record of an event; none when it has been dropped. -/
def lookup (t : EventTable) (id : EventId) : Except DeviceError (Option EventRecord) :=
  match t.records.get? id with
  | some record => .ok (some record)
  | none => if t.retiredFrom ≤ id ∧ id < t.retiredTo then .ok none else .error (.invalidEvent id)

def checkAll (t : EventTable) : List EventId → Except DeviceError Unit
  | [] => .ok ()
  | id :: rest =>
    match t.lookup id with
    | .error e => .error e
    | .ok _ => t.checkAll rest

private theorem unreached_lt {t : EventTable} {id : EventId} {record : EventRecord}
    {reached : List EventId} (found : t.lookup id = .ok (some record)) (fresh : id ∉ reached) :
    (t.records.keys.filter fun k => k ∉ id :: reached).length <
      (t.records.keys.filter fun k => k ∉ reached).length := by
  have held : id ∈ t.records.keys := by
    unfold lookup at found
    split at found
    next found' => exact Table.mem_keys_of_get? found'
    next =>
      split at found <;> cases found
  have split : (t.records.keys.filter fun k => k ∉ id :: reached) =
      (t.records.keys.filter fun k => k ∉ reached).filter fun k => k ≠ id := by
    rw [List.filter_filter]
    congr 1
    funext k
    simp [List.mem_cons, not_or]
  rw [split]
  apply List.length_filter_lt_length_iff_exists.2
  exact ⟨id, List.mem_filter.2 ⟨held, by simpa using fresh⟩, by simp⟩

/-- The unfinished events among the pending ones and those they wait for, the latest found first, or
nothing when `halt` holds of one of them. An event is looked into once, and its last dependency before
the others. -/
def explore (t : EventTable) (halt : EventRecord → Bool) (pending reached : List EventId) :
    Except DeviceError (Option (List EventId)) :=
  match pending with
  | [] => .ok (some reached)
  | id :: rest =>
    match _found : t.lookup id with
    | .error e => .error e
    | .ok none => t.explore halt rest reached
    | .ok (some record) =>
      if _done : record.complete = true ∨ id ∈ reached then t.explore halt rest reached
      else if halt record then .ok none
      else t.explore halt (record.deps.reverse ++ rest) (id :: reached)
termination_by ((t.records.keys.filter fun k => k ∉ reached).length, pending.length)
decreasing_by
  · exact Prod.Lex.right _ (by simp)
  · exact Prod.Lex.right _ (by simp)
  · exact Prod.Lex.left _ _ (unreached_lt _found (fun h => _done (.inr h)))

/-- The unfinished events that stand behind an event, itself included, the latest found first. -/
def unfinished (t : EventTable) (id : EventId) : Except DeviceError (List EventId) := do
  let events ← t.explore (fun _ => false) [id] []
  pure (events.getD [])

/-- No command stands unfinished behind the event. -/
def isComplete (t : EventTable) (id : EventId) : Except DeviceError Bool := do
  let events ← t.explore EventRecord.isCommand [id] []
  pure events.isSome

def allComplete (t : EventTable) : List EventId → Except DeviceError Bool
  | [] => .ok true
  | id :: rest => do
    let first ← t.isComplete id
    let others ← t.allComplete rest
    pure (first && others)

/-- The events that an event waits for; none once it has been dropped. -/
def dependencies (t : EventTable) (id : EventId) : Except DeviceError (List EventId) := do
  let record ← t.lookup id
  pure ((record.map EventRecord.deps).getD [])

/-- The state of an event. There is no clock: all times are zero. -/
def profile (t : EventTable) (id : EventId) : Except DeviceError EventProfile := do
  let complete ← t.isComplete id
  pure { status := if complete then .complete else .queued }

private def insertNew (t : EventTable) (record : EventRecord) : EventTable :=
  { t with records := t.records.insert t.nextId record, nextId := t.nextId + 1 }

/-- A command that has been carried out; it waits for the events of `wait`. -/
def record (t : EventTable) (kind : EventKind) (wait : List EventId) :
    Except DeviceError (EventId × EventTable) := do
  t.checkAll wait
  pure (t.nextId,
    { t.insertNew ⟨kind, !t.deferred, wait⟩ with frontier := t.frontier ++ [t.nextId] })

/-- Drop what is older than the latest full marker, if that is complete. -/
def retireCovered (t : EventTable) : Except DeviceError EventTable :=
  match t.lastFull with
  | none => .ok t
  | some cut => do
    let complete ← t.isComplete cut
    if complete then
      let kept := t.records.restrict fun id => cut ≤ id
      let records := match kept.get? cut with
        | some record => kept.insert cut { record with complete := true, deps := [] }
        | none => kept
      pure { t with records, retiredTo := cut, lastFull := none }
    else pure t

/-- A marker over `wait`, or a full one; the result names it and the events it waits for. -/
def marker (t : EventTable) (wait : List EventId) :
    Except DeviceError ((EventId × List EventId) × EventTable) := do
  let full := wait.isEmpty
  let deps := if full then t.frontier else wait
  t.checkAll deps
  let complete ← t.allComplete deps
  let id := t.nextId
  let t := t.insertNew ⟨.marker, complete, deps⟩
  if full then
    let t ← { t with frontier := [id], lastFull := some id }.retireCovered
    pure ((id, deps), t)
  else pure ((id, deps), { t with frontier := t.frontier ++ [id] })

/-- Set the completion of a live event. -/
def finish (t : EventTable) (id : EventId) : EventTable :=
  match t.records.get? id with
  | some record => { t with records := t.records.insert id { record with complete := true } }
  | none => t

/-- Complete an event by name. -/
def complete (t : EventTable) (id : EventId) : Except DeviceError EventTable := do
  let _ ← t.lookup id
  pure (t.finish id)

/-- Wait for an event: complete the unfinished events behind it, the latest found first. -/
def drain (t : EventTable) (id : EventId) : Except DeviceError EventTable := do
  let events ← t.unfinished id
  (events.foldl finish t).retireCovered

def size (t : EventTable) : Nat :=
  t.records.size

/-- Forget all events. Ids already given out stay used and are no longer good. -/
def clear (t : EventTable) : EventTable :=
  { t with
    records := {}
    frontier := []
    lastFull := none
    retiredFrom := t.nextId
    retiredTo := t.nextId }

end EventTable
end Offload
