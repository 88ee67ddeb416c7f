import Offload.Proofs.EventHistory
import Offload.Proofs.EventSearch

/-! An event table drops what a complete full marker covers, and nobody can tell: it answers as the
history does that keeps every event. Of the wait list of a full marker the table keeps a frontier only,
the marker before and what came after that one, which stands for the rest of the list. -/
namespace Offload

/-- What an event table can be asked to do. -/
inductive EventRequest where
  | record (kind : EventKind) (command : kind ≠ .marker) (wait : List EventId)
  | marker (wait : List EventId)
  | drain (id : EventId)
  | complete (id : EventId)
  | clear

namespace EventRequest

/-- The handle that is given out, if there is one, and what becomes of the table. -/
def onTable (t : EventTable) : EventRequest → Except DeviceError (Option EventId × EventTable)
  | record kind _ wait => (t.record kind wait).map fun (id, t) => (some id, t)
  | marker wait => (t.marker wait).map fun ((id, _), t) => (some id, t)
  | drain id => (t.drain id).map fun t => (none, t)
  | complete id => (t.complete id).map fun t => (none, t)
  | clear => .ok (none, t.clear)

def onHistory (h : EventHistory) : EventRequest → Except DeviceError (Option EventId × EventHistory)
  | record _ _ wait => (h.record wait).map fun (id, h) => (some id, h)
  | marker wait => (h.marker wait).map fun (id, h) => (some id, h)
  | drain id => (h.drain id).map fun h => (none, h)
  | complete id => (h.complete id).map fun h => (none, h)
  | clear => .ok (none, h.clear)

/-- A marker is not completed by name. -/
def Admitted (h : EventHistory) : EventRequest → Prop
  | complete id => ∀ e, h.get? id = some e → e.command = true
  | _ => True

end EventRequest

/-- A refused request changes nothing. -/
def settled {σ : Type} (s : σ) : Except DeviceError (Option EventId × σ) → σ
  | .ok (_, s') => s'
  | .error _ => s

/-- What a table and the history of its events become by the same requests. -/
inductive Observed : EventTable → EventHistory → Prop where
  | start (deferred : Bool) : Observed { deferred } { deferred }
  | step {t : EventTable} {h : EventHistory} (observed : Observed t h) (request : EventRequest)
      (admitted : request.Admitted h) :
      Observed (settled t (request.onTable t)) (settled h (request.onHistory h))

namespace EventTable
open EventHistory (Extends Ordered)

variable {t t' : EventTable} {h h' : EventHistory} {id w x : EventId} {r : EventRecord} {e : EventEntry}
  {deps waits found : List EventId} {halt : EventRecord → Bool}

/-- Some events on a wait list stand for all of them: any other one is waited for by a marker among
them. -/
structure Covers (h : EventHistory) (deps waits : List EventId) : Prop where
  among : ∀ d ∈ deps, d ∈ waits
  stands : ∀ w ∈ waits, w ∈ deps ∨
    ∃ m ∈ deps, ∃ e, h.get? m = some e ∧ e.command = false ∧ w ∈ e.waits

private theorem Covers.later (covers : Covers h deps waits) (extended : Extends h h') :
    Covers h' deps waits where
  among := covers.among
  stands w member := by
    refine (covers.stands w member).imp_right ?_
    rintro ⟨m, dep, e, known, marker, waits⟩
    exact ⟨m, dep, e, extended.entries m e known, marker, waits⟩

/-- A record tells of an event what the history tells. -/
structure Recorded (h : EventHistory) (id : EventId) (r : EventRecord) (e : EventEntry) : Prop where
  command : r.isCommand = e.command
  finished : e.command = true → (r.complete = true ↔ h.finished id)
  complete : r.complete = true → h.Complete id
  deps : r.complete = false → Covers h r.deps e.waits

/-- A record that stays tells the same of a later history. -/
theorem Recorded.later (recorded : Recorded h id r e) (extended : Extends h h')
    (same : e.command = true → (h'.finished id ↔ h.finished id)) : Recorded h' id r e where
  command := recorded.command
  finished command := (recorded.finished command).trans (same command).symm
  complete complete := extended.complete (recorded.complete complete)
  deps unfinished := (recorded.deps unfinished).later extended

/-- A complete marker needs no dependencies any more. -/
theorem Recorded.settle (recorded : Recorded h id r e) (marker : e.command = false)
    (done : h.Complete id) : Recorded h id { r with complete := true, deps := [] } e where
  command := recorded.command
  finished command := by
    rw [marker] at command
    cases command
  complete _ := done
  deps unfinished := by cases unfinished

/-- The table holds the later events of the history; the earlier ones are complete. -/
structure Follows (t : EventTable) (h : EventHistory) : Prop where
  ordered : h.Ordered
  deferred : t.deferred = h.deferred
  nextId : t.nextId = h.next
  retiredFrom : t.retiredFrom = h.first
  retiredTo : h.first ≤ t.retiredTo ∧ t.retiredTo ≤ h.next
  retired : ∀ id, h.first ≤ id → id < t.retiredTo → h.Complete id
  held : ∀ id, t.retiredTo ≤ id → id < h.next → ∃ r, t.records.get? id = some r
  records : ∀ id r, t.records.get? id = some r →
    t.retiredTo ≤ id ∧ ∃ e, h.get? id = some e ∧ Recorded h id r e
  frontier : Covers h t.frontier h.all
  lastFull : ∀ cut, t.lastFull = some cut → t.retiredTo ≤ cut ∧
    ∃ e, h.get? cut = some e ∧ e.command = false ∧ ∀ w, h.first ≤ w → w < cut → w ∈ e.waits

/-! ### Handles -/

namespace Follows

/-- The table can look up what the history knows to have been issued. -/
theorem lookup (follows : t.Follows h) (id : EventId) :
    t.lookup id = if h.Issued id then .ok (t.records.get? id) else .error (.invalidEvent id) := by
  unfold EventTable.lookup
  rcases found : t.records.get? id with _ | r
  · by_cases dropped : t.retiredFrom ≤ id ∧ id < t.retiredTo
    · have issued : h.Issued id :=
        ⟨follows.retiredFrom ▸ dropped.1, Nat.lt_of_lt_of_le dropped.2 follows.retiredTo.2⟩
      simp only [if_pos dropped, if_pos issued]
    · have unknown : ¬ h.Issued id := by
        intro issued
        rw [follows.retiredFrom] at dropped
        have later : t.retiredTo ≤ id := Nat.not_lt.1 fun earlier => dropped ⟨issued.1, earlier⟩
        obtain ⟨r, found'⟩ := follows.held id later issued.2
        rw [found] at found'
        cases found'
      simp only [if_neg dropped, if_neg unknown]
  · obtain ⟨_, e, known, _⟩ := follows.records id r found
    rw [if_pos (EventHistory.issued_of_known known)]

private theorem valid (follows : t.Follows h) (issued : h.Issued id) : t.Valid id := by
  rw [Valid, follows.lookup, if_pos issued]

private theorem checkAll (follows : t.Follows h) (wait : List EventId) : t.checkAll wait = h.check wait := by
  induction wait with
  | nil => rfl
  | cons id rest ih =>
    rw [EventTable.checkAll, EventHistory.check, follows.lookup]
    by_cases issued : h.Issued id
    · simp only [if_pos issued, ih]
    · simp only [if_neg issued]

/-- An open event waits for older events. -/
theorem deps_issued (follows : t.Follows h) (unfinished : t.Open id r) (waits : w ∈ r.deps) :
    h.Issued w := by
  obtain ⟨_, e, known, recorded⟩ := follows.records id r unfinished.1
  exact follows.ordered.issued known ((recorded.deps unfinished.2).among w waits)

private theorem closed (follows : t.Follows h) : t.Closed :=
  fun _ _ unfinished _ waits => follows.valid (follows.deps_issued unfinished waits)

/-! ### Completion -/

/-- What was dropped is complete, and so is what is marked complete. -/
theorem complete_of_done (follows : t.Follows h) (issued : h.Issued id) (done : t.Done id) :
    h.Complete id := by
  rcases found : t.records.get? id with _ | r
  · refine follows.retired id issued.1 (Nat.not_le.1 fun later => ?_)
    obtain ⟨r, found'⟩ := follows.held id later issued.2
    rw [found] at found'
    cases found'
  · obtain ⟨_, e, _, recorded⟩ := follows.records id r found
    refine recorded.complete (Bool.not_eq_false _ ▸ fun unfinished => ?_)
    exact done r ⟨found, unfinished⟩

/-- A command that is open is not complete. -/
theorem pending_of_open (follows : t.Follows h) (unfinished : t.Open id r)
    (command : r.isCommand = true) : ¬ h.Complete id := by
  obtain ⟨_, e, known, recorded⟩ := follows.records id r unfinished.1
  rw [recorded.command] at command
  rw [EventHistory.complete_command known command, ← recorded.finished command, unfinished.2]
  exact Bool.false_ne_true

/-- Behind a complete event all is complete. -/
theorem complete_of_leads (follows : t.Follows h) (leads : t.Leads id x) (complete : h.Complete id) :
    h.Complete x := by
  induction leads with
  | self => exact complete
  | through unfinished waits _ ih =>
    obtain ⟨_, e, known, recorded⟩ := follows.records _ _ unfinished.1
    cases kind : e.command with
    | true =>
      rw [← recorded.command] at kind
      exact absurd complete (follows.pending_of_open unfinished kind)
    | false =>
      rw [EventHistory.complete_marker known kind] at complete
      exact ih (complete _ ((recorded.deps unfinished.2).among _ waits))

/-- A search that came to its end has found all that is waited for and is not complete. -/
theorem found_waits (follows : t.Follows h) (explored : t.Explored halt [] found) (id : EventId) :
    id ∈ found → ∀ e, h.get? id = some e → ∀ w ∈ e.waits, h.Complete w ∨ w ∈ found := by
  -- What a dependency stands for is settled by induction: it is an older marker.
  induction id using Nat.strongRecOn with
  | ind id ih =>
    intro member e known w waits
    obtain ⟨r, unfinished, _, deps⟩ := explored id member
    obtain ⟨_, e', known', recorded⟩ := follows.records id r unfinished.1
    rw [known] at known'
    cases known'
    have settled (d : EventId) (dep : d ∈ r.deps) : h.Complete d ∨ d ∈ found := by
      rcases deps d dep with done | found | left
      · exact .inl (follows.complete_of_done (follows.deps_issued unfinished dep) done)
      · exact .inr found
      · cases left
    have covers := recorded.deps unfinished.2
    rcases covers.stands w waits with dep | ⟨m, dep, e', known', marker, waits'⟩
    · exact settled w dep
    · have older := (follows.ordered.waits id e known m (covers.among m dep)).2
      rcases settled m dep with complete | found
      · exact .inl ((EventHistory.complete_marker known' marker).1 complete w waits')
      · exact ih m older found e' known' w waits'

/-- If no command is among what a search found, all of it is complete. -/
theorem found_complete (follows : t.Follows h)
    (explored : t.Explored EventRecord.isCommand [] found) (id : EventId) :
    id ∈ found → h.Complete id := by
  induction id using Nat.strongRecOn with
  | ind id ih =>
    intro member
    obtain ⟨r, unfinished, pass, _⟩ := explored id member
    obtain ⟨_, e, known, recorded⟩ := follows.records id r unfinished.1
    rw [recorded.command] at pass
    refine .marker known pass fun w waits => ?_
    rcases follows.found_waits explored id member e known w waits with complete | found
    · exact complete
    · exact ih w (follows.ordered.waits id e known w waits).2 found

/-- The table and the history agree on what is complete. -/
theorem isComplete_ok (follows : t.Follows h) (issued : h.Issued id) :
    ∃ complete, t.isComplete id = .ok complete ∧ (complete = true ↔ h.Complete id) := by
  have searched := searched_from follows.closed (follows.valid issued) EventRecord.isCommand
  unfold isComplete
  rcases ran : t.explore EventRecord.isCommand [id] [] with e | _ | found <;> rw [ran] at searched
  · cases searched
  · refine ⟨false, rfl, ?_⟩
    cases searched with
    | stopped start leads unfinished stop =>
      rw [List.mem_singleton.1 start] at leads
      have pending := follows.pending_of_open unfinished stop
      simp only [Bool.false_eq_true, false_iff]
      exact fun complete => pending (follows.complete_of_leads leads complete)
  · refine ⟨true, rfl, ?_⟩
    cases searched with
    | exhausted _ _ visited explored _ =>
      simp only [true_iff]
      rcases visited id (List.mem_singleton_self id) with done | member
      · exact follows.complete_of_done issued done
      · exact follows.found_complete explored id member

private theorem explore_error (follows : t.Follows h) (unknown : ¬ h.Issued id) :
    t.explore halt [id] [] = .error (.invalidEvent id) := by
  exact explore_refused (by rw [follows.lookup, if_neg unknown])

private theorem isComplete_error (follows : t.Follows h) (unknown : ¬ h.Issued id) :
    t.isComplete id = .error (.invalidEvent id) := by
  rw [isComplete, follows.explore_error unknown]
  rfl

private theorem allComplete_ok (follows : t.Follows h) (issued : ∀ id ∈ waits, h.Issued id) :
    ∃ complete, t.allComplete waits = .ok complete ∧
      (complete = true ↔ ∀ id ∈ waits, h.Complete id) := by
  induction waits with
  | nil => exact ⟨true, rfl, by simp⟩
  | cons id rest ih =>
    obtain ⟨first, ran, complete⟩ := follows.isComplete_ok (issued id (List.mem_cons_self ..))
    obtain ⟨others, ran', complete'⟩ := ih fun id' member => issued id' (List.mem_cons_of_mem _ member)
    refine ⟨first && others, ?_, ?_⟩
    · simp only [allComplete, ran, ran']
      rfl
    · simp [complete, complete']

end Follows

/-! ### What a request does to the table -/

theorem finish_eq (t : EventTable) (id : EventId) :
    ∃ records, t.finish id = { t with records } ∧ ∀ x, records.get? x =
      (t.records.get? x).map fun r => if x = id then { r with complete := true } else r := by
  unfold finish
  rcases held : t.records.get? id with _ | r
  · refine ⟨t.records, rfl, fun x => ?_⟩
    by_cases here : x = id
    · simp [here, held]
    · simp [here]
  · refine ⟨_, rfl, fun x => ?_⟩
    rw [Table.get?_insert]
    by_cases here : id = x
    · simp [← here, held]
    · simp [here, Ne.symm here]

/-- Some events are marked complete, and nothing else changes. -/
theorem finishAll_eq (t : EventTable) (ids : List EventId) :
    ∃ records, ids.foldl finish t = { t with records } ∧ ∀ x, records.get? x =
      (t.records.get? x).map fun r => if x ∈ ids then { r with complete := true } else r := by
  induction ids generalizing t with
  | nil => exact ⟨t.records, rfl, fun x => by simp⟩
  | cons id rest ih =>
    obtain ⟨first, same, marked⟩ := finish_eq t id
    obtain ⟨records, same', marked'⟩ := ih (t.finish id)
    refine ⟨records, by rw [List.foldl_cons, same', same], fun x => ?_⟩
    rw [marked', same, marked, Option.map_map]
    congr 1
    funext r
    by_cases here : x = id <;> simp [here]

/-- Marking events complete that are complete now. -/
theorem follows_finishAll (follows : t.Follows h) (also : EventId → Prop) (ids : List EventId)
    (issued : ∀ x, also x → h.Issued x)
    (commands : ∀ x r e, t.records.get? x = some r → h.get? x = some e → e.command = true →
      (r.complete = true ∨ x ∈ ids ↔ h.finished x ∨ also x))
    (marked : ∀ x ∈ ids, (h.finish also).Complete x) :
    (ids.foldl finish t).Follows (h.finish also) := by
  obtain ⟨records, same, found⟩ := finishAll_eq t ids
  have extended : Extends h (h.finish also) := EventHistory.extends_finish also
  rw [same]
  refine
    { ordered := ⟨follows.ordered.waits, ?_⟩
      deferred := follows.deferred
      nextId := follows.nextId
      retiredFrom := follows.retiredFrom
      retiredTo := follows.retiredTo
      retired := fun id old dropped => extended.complete (follows.retired id old dropped)
      held := ?_
      records := ?_
      frontier := follows.frontier.later extended
      lastFull := follows.lastFull }
  · rintro id (old | new)
    · exact follows.ordered.finished id old
    · exact (issued id new).2
  · intro id later inside
    obtain ⟨r, held⟩ := follows.held id later inside
    exact ⟨_, by rw [found, held, Option.map_some]⟩
  · intro id r' held'
    rw [found] at held'
    obtain ⟨r, held, rfl⟩ := Option.map_eq_some_iff.1 held'
    obtain ⟨later, e, known, recorded⟩ := follows.records id r held
    refine ⟨later, e, known, ?_⟩
    by_cases member : id ∈ ids
    · rw [if_pos member]
      refine ⟨recorded.command, fun command => ?_, fun _ => marked id member, nofun⟩
      have finished := (commands id r e held known command).1 (.inr member)
      exact iff_of_true rfl finished
    · rw [if_neg member]
      refine recorded.later extended fun command => ?_
      have finished := commands id r e held known command
      rw [or_iff_left member] at finished
      exact finished.symm.trans (recorded.finished command)

/-- Dropping what a complete full marker covers. -/
theorem follows_retireCovered (follows : t.Follows h) :
    ∃ t', t.retireCovered = .ok t' ∧ t'.Follows h := by
  unfold retireCovered
  rcases lastFull : t.lastFull with _ | cut
  · exact ⟨t, rfl, follows⟩
  obtain ⟨later, e, known, marker, covers⟩ := follows.lastFull cut lastFull
  have issued := EventHistory.issued_of_known known
  obtain ⟨complete, ran, iff⟩ := follows.isComplete_ok issued
  simp only [ran, bind, Except.bind]
  cases complete with
  | false => exact ⟨t, rfl, follows⟩
  | true =>
    have done := iff.1 rfl
    obtain ⟨r, held⟩ := follows.held cut later issued.2
    have kept : (t.records.restrict fun id => cut ≤ id).get? cut = some r := by
      rw [Table.get?_restrict, if_pos (decide_eq_true (Nat.le_refl cut)), held]
    simp only [if_pos, kept]
    refine ⟨_, rfl, ?_⟩
    refine
      { ordered := follows.ordered
        deferred := follows.deferred
        nextId := follows.nextId
        retiredFrom := follows.retiredFrom
        retiredTo := ⟨issued.1, Nat.le_of_lt issued.2⟩
        retired := fun id old dropped =>
          (EventHistory.complete_marker known marker).1 done id (covers id old dropped)
        held := ?_
        records := ?_
        frontier := follows.frontier
        lastFull := ?_ }
    · intro id after inside
      simp only [Table.get?_insert, Table.get?_restrict, decide_eq_true_eq, if_pos after]
      split
      · exact ⟨_, rfl⟩
      · exact follows.held id (Nat.le_trans later after) inside
    · intro id r' held'
      simp only [Table.get?_insert, Table.get?_restrict, decide_eq_true_eq] at held'
      split at held'
      · next here =>
        subst here
        cases held'
        obtain ⟨_, e', known', recorded⟩ := follows.records cut r held
        rw [known] at known'
        cases known'
        exact ⟨Nat.le_refl _, e, known, recorded.settle marker done⟩
      · split at held'
        · next after =>
          obtain ⟨_, e', known', recorded⟩ := follows.records id r' held'
          exact ⟨after, e', known', recorded⟩
        · cases held'
    · intro cut absent
      cases absent

/-- One more event. -/
theorem follows_add {finished : Prop} {frontier : List EventId} (follows : t.Follows h)
    (lastFull : Option EventId) (issued : ∀ w ∈ e.waits, h.Issued w)
    (recorded : Recorded (h.add e finished) h.next r e)
    (covers : Covers (h.add e finished) frontier (h.add e finished).all)
    (full : lastFull = t.lastFull ∨ lastFull = some h.next ∧ e.command = false ∧
      ∀ w, h.Issued w → w ∈ e.waits) :
    Follows { t with
      records := t.records.insert t.nextId r, nextId := t.nextId + 1, frontier, lastFull }
      (h.add e finished) := by
  have extended : Extends h (h.add e finished) := EventHistory.extends_add e finished
  have added : (h.add e finished).get? h.next = some e := by
    rw [EventHistory.get?_add, if_pos rfl]
  refine
    { ordered := EventHistory.ordered_add follows.ordered issued finished
      deferred := follows.deferred
      nextId := by rw [EventHistory.next_add, ← follows.nextId]
      retiredFrom := follows.retiredFrom
      retiredTo := ?_
      retired := fun id old dropped => extended.complete (follows.retired id old dropped)
      held := ?_
      records := ?_
      frontier := covers
      lastFull := ?_ }
  · rw [EventHistory.next_add]
    exact ⟨follows.retiredTo.1, Nat.le_succ_of_le follows.retiredTo.2⟩
  · intro id later inside
    rw [EventHistory.next_add] at inside
    simp only [Table.get?_insert, follows.nextId]
    split
    · exact ⟨r, rfl⟩
    · next differ =>
      exact follows.held id later (Nat.lt_of_le_of_ne (Nat.le_of_lt_succ inside) (Ne.symm differ))
  · intro id r' held
    simp only [Table.get?_insert, follows.nextId] at held
    split at held
    · next here =>
      subst here
      cases held
      exact ⟨follows.retiredTo.2, e, added, recorded⟩
    · obtain ⟨later, e', known, old⟩ := follows.records id r' held
      have older := EventHistory.issued_of_known known
      refine ⟨later, e', extended.entries id e' known, old.later extended fun _ => ⟨?_, .inl⟩⟩
      rintro (before | ⟨rfl, _⟩)
      · exact before
      · exact absurd older.2 (Nat.lt_irrefl _)
  · intro cut latest
    rcases full with same | ⟨new, marker, all⟩
    · rw [same] at latest
      obtain ⟨later, e', known, marker, waits⟩ := follows.lastFull cut latest
      exact ⟨later, e', extended.entries cut e' known, marker, waits⟩
    · rw [new] at latest
      cases latest
      exact ⟨follows.retiredTo.2, e, added, marker, fun w old inside => all w ⟨old, inside⟩⟩

private theorem mem_all_add {finished : Prop} :
    w ∈ (h.add e finished).all ↔ w ∈ h.all ∨ w = h.next := by
  simp only [EventHistory.mem_all, EventHistory.Issued, EventHistory.next_add, Nat.lt_succ_iff]
  have later : h.first ≤ h.next := Nat.le_add_right _ _
  constructor
  · rintro ⟨old, inside⟩
    rcases Nat.lt_or_eq_of_le inside with before | here
    · exact .inl ⟨old, before⟩
    · exact .inr here
  · rintro (⟨old, inside⟩ | rfl)
    · exact ⟨old, Nat.le_of_lt inside⟩
    · exact ⟨later, Nat.le_refl _⟩

/-- The frontier takes in the new event. -/
theorem covers_append {finished : Prop} (covers : Covers h deps h.all) :
    Covers (h.add e finished) (deps ++ [h.next]) (h.add e finished).all where
  among d member := by
    rcases List.mem_append.1 member with old | new
    · exact mem_all_add.2 (.inl (covers.among d old))
    · exact mem_all_add.2 (.inr (List.mem_singleton.1 new))
  stands w member := by
    rcases mem_all_add.1 member with old | rfl
    · rcases (covers.later (EventHistory.extends_add e finished)).stands w old with dep | ⟨m, dep, found⟩
      · exact .inl (List.mem_append_left _ dep)
      · exact .inr ⟨m, List.mem_append_left _ dep, found⟩
    · exact .inl (by simp)

/-- A full marker alone stands for everything. -/
theorem covers_full {finished : Prop} (marker : e.command = false)
    (full : ∀ w, h.Issued w → w ∈ e.waits) :
    Covers (h.add e finished) [h.next] (h.add e finished).all where
  among d member := mem_all_add.2 (.inr (List.mem_singleton.1 member))
  stands w member := by
    rcases mem_all_add.1 member with old | rfl
    · refine .inr ⟨h.next, List.mem_singleton_self _, e, ?_, marker, full w (EventHistory.mem_all.1 old)⟩
      rw [EventHistory.get?_add, if_pos rfl]
    · exact .inl (List.mem_singleton_self _)

private theorem covers_self (h : EventHistory) (waits : List EventId) : Covers h waits waits :=
  ⟨fun _ member => member, fun _ member => .inl member⟩

private theorem Covers.complete (covers : Covers h deps waits) (complete : ∀ d ∈ deps, h.Complete d) :
    ∀ w ∈ waits, h.Complete w := by
  intro w member
  rcases covers.stands w member with dep | ⟨m, dep, e, known, marker, waits⟩
  · exact complete w dep
  · exact (EventHistory.complete_marker known marker).1 (complete m dep) w waits

/-! ### Requests -/

/-- A table without events follows a history without events. -/
theorem follows_empty (deferred : t.deferred = h.deferred) (records : t.records = {})
    (nextId : t.nextId = h.first) (retiredFrom : t.retiredFrom = h.first)
    (retiredTo : t.retiredTo = h.first) (frontier : t.frontier = []) (lastFull : t.lastFull = none)
    (entries : h.entries = []) (finished : ∀ id, ¬ h.finished id) : t.Follows h := by
  have next : h.next = h.first := by rw [EventHistory.next, entries, List.length_nil, Nat.add_zero]
  refine
    { ordered := EventHistory.ordered_empty entries finished
      deferred := deferred
      nextId := nextId.trans next.symm
      retiredFrom := retiredFrom
      retiredTo := by rw [retiredTo, next]; exact ⟨Nat.le_refl _, Nat.le_refl _⟩
      retired := ?_
      held := ?_
      records := ?_
      frontier := ?_
      lastFull := ?_ }
  · intro id old dropped
    exact absurd old (Nat.not_le.2 (retiredTo ▸ dropped))
  · intro id old inside
    rw [next] at inside
    exact absurd old (Nat.not_le.2 (retiredTo ▸ inside))
  · intro id r held
    rw [records] at held
    cases held
  · rw [frontier, EventHistory.all, entries]
    exact covers_self h []
  · intro cut held
    rw [lastFull] at held
    cases held

/-- A new table follows a new history. -/
theorem follows_start (deferred : Bool) : Follows { deferred } { deferred } :=
  follows_empty rfl rfl rfl rfl rfl rfl rfl rfl fun _ => not_false

/-- A cleared table follows a cleared history. -/
theorem follows_clear (follows : t.Follows h) : t.clear.Follows h.clear :=
  follows_empty follows.deferred rfl follows.nextId follows.nextId follows.nextId rfl rfl rfl
    fun _ => not_false

/-- Table and history give the same answer, and the table goes on following the history. -/
inductive Answers : Except DeviceError (Option EventId × EventTable) →
    Except DeviceError (Option EventId × EventHistory) → Prop where
  | refused (e : DeviceError) : Answers (.error e) (.error e)
  | given {t : EventTable} {h : EventHistory} (handle : Option EventId) (follows : t.Follows h) :
      Answers (.ok (handle, t)) (.ok (handle, h))

section Answers

variable {onTable : Except DeviceError (Option EventId × EventTable)}
  {onHistory : Except DeviceError (Option EventId × EventHistory)}

private theorem Answers.same (answers : Answers onTable onHistory) :
    onTable.map Prod.fst = onHistory.map Prod.fst := by
  cases answers <;> rfl

/-- Behind a request that both answered the table still follows its history. -/
theorem Answers.follows (answers : Answers onTable onHistory) (follows : t.Follows h) :
    (settled t onTable).Follows (settled h onHistory) := by
  cases answers with
  | refused => exact follows
  | given _ next => exact next

end Answers

/-- A record is answered as the history answers it. -/
theorem answers_record (follows : t.Follows h) (kind : EventKind) (command : kind ≠ .marker)
    (wait : List EventId) : Answers ((EventRequest.record kind command wait).onTable t)
      ((EventRequest.record kind command wait).onHistory h) := by
  simp only [EventRequest.onTable, EventRequest.onHistory, record, EventHistory.record,
    follows.checkAll]
  rcases checked : h.check wait with e | _
  · exact .refused e
  have added : (h.add ⟨true, wait⟩ (h.deferred = false)).get? h.next = some ⟨true, wait⟩ := by
    rw [EventHistory.get?_add, if_pos rfl]
  have fresh : ¬ h.finished h.next :=
    fun finished => Nat.lt_irrefl _ (follows.ordered.finished _ finished)
  have finished : (h.add ⟨true, wait⟩ (h.deferred = false)).finished h.next ↔ (!t.deferred) = true := by
    simp [EventHistory.add, fresh, follows.deferred]
  have next := follows_add (r := ⟨kind, !t.deferred, wait⟩) follows t.lastFull
    (EventHistory.check_ok_iff.1 checked)
    ⟨by simp [EventRecord.isCommand, command], fun _ => finished.symm,
      fun complete => .command added rfl (finished.2 complete), fun _ => covers_self _ _⟩
    (covers_append follows.frontier) (.inl rfl)
  rw [← follows.nextId] at next ⊢
  exact .given (some t.nextId) next

/-- A new marker is complete if the events it names are, and these stand for all that it waits for. -/
theorem recorded_marker (follows : t.Follows h) (covers : Covers h deps waits)
    (issued : ∀ w ∈ waits, h.Issued w) : t.checkAll deps = .ok () ∧
      ∃ complete, t.allComplete deps = .ok complete ∧
        Recorded (h.add ⟨false, waits⟩ False) h.next ⟨.marker, complete, deps⟩ ⟨false, waits⟩ := by
  have issued' (d : EventId) (dep : d ∈ deps) : h.Issued d := issued d (covers.among d dep)
  have added : (h.add ⟨false, waits⟩ False).get? h.next = some ⟨false, waits⟩ := by
    rw [EventHistory.get?_add, if_pos rfl]
  have extended : Extends h (h.add ⟨false, waits⟩ False) := EventHistory.extends_add _ _
  obtain ⟨complete, ran, iff⟩ := follows.allComplete_ok issued'
  refine ⟨by rw [follows.checkAll, EventHistory.check_ok_iff.2 issued'], complete, ran, rfl, nofun,
    fun all => ?_, fun _ => covers.later extended⟩
  exact .marker added rfl fun w member => extended.complete (covers.complete (iff.1 all) w member)

/-- What a full marker does to a table, step by step. -/
theorem marker_full {complete : Bool} (checked : t.checkAll t.frontier = .ok ())
    (ran : t.allComplete t.frontier = .ok complete)
    (retired : retireCovered { t with
      records := t.records.insert t.nextId ⟨.marker, complete, t.frontier⟩
      nextId := t.nextId + 1
      frontier := [t.nextId]
      lastFull := some t.nextId } = .ok t') :
    t.marker [] = .ok ((t.nextId, t.frontier), t') := by
  simp only [marker, List.isEmpty_nil, if_true, checked, ran, bind, Except.bind]
  change Except.bind (retireCovered { t with
    records := t.records.insert t.nextId ⟨.marker, complete, t.frontier⟩
    nextId := t.nextId + 1
    frontier := [t.nextId]
    lastFull := some t.nextId }) _ = _
  rw [retired]
  rfl

/-- A marker is answered as the history answers it. -/
theorem answers_marker (follows : t.Follows h) (wait : List EventId) :
    Answers ((EventRequest.marker wait).onTable t) ((EventRequest.marker wait).onHistory h) := by
  simp only [EventRequest.onTable, EventRequest.onHistory]
  cases wait with
  | nil =>
    have issued (w : EventId) (member : w ∈ h.all) := EventHistory.mem_all.1 member
    obtain ⟨checked, complete, ran, recorded⟩ := recorded_marker follows follows.frontier issued
    have full (w : EventId) (old : h.Issued w) : w ∈ h.all := EventHistory.mem_all.2 old
    have next := follows_add follows (some h.next) issued recorded (covers_full rfl full)
      (.inr ⟨rfl, rfl, full⟩)
    obtain ⟨t', retired, next⟩ := follows_retireCovered next
    rw [← follows.nextId] at retired
    rw [marker_full checked ran retired, follows.nextId]
    exact .given (some h.next) next
  | cons w rest =>
    simp only [marker, EventHistory.marker]
    rcases checked : h.check (w :: rest) with e | _
    · simp only [List.isEmpty_cons, if_false, follows.checkAll, checked, Bool.false_eq_true]
      exact .refused e
    have issued := EventHistory.check_ok_iff.1 checked
    obtain ⟨checked, complete, ran, recorded⟩ :=
      recorded_marker follows (covers_self h (w :: rest)) issued
    have next := follows_add follows t.lastFull issued recorded
      (covers_append follows.frontier) (.inl rfl)
    rw [← follows.nextId] at next ⊢
    simp only [List.isEmpty_cons, if_false, Bool.false_eq_true, checked, ran, bind, Except.bind]
    exact .given (some t.nextId) next

private theorem leads_reached (follows : t.Follows h) (leads : t.Leads id x) :
    h.Complete x ∨ h.Reached id x := by
  induction leads with
  | self id => exact .inr (.self id)
  | @through id w x r unfinished waits rest ih =>
    by_cases complete : h.Complete id
    · exact .inl (follows.complete_of_leads (.through unfinished waits rest) complete)
    · obtain ⟨_, e, known, recorded⟩ := follows.records _ _ unfinished.1
      have among := (recorded.deps unfinished.2).among w waits
      exact ih.imp_right (.through known complete among)

/-- What an unfinished event leads to is complete or was found. -/
theorem reached_found (follows : t.Follows h) (explored : t.Explored halt [] found)
    (reached : h.Reached id x) (start : h.Complete id ∨ id ∈ found) : h.Complete x ∨ x ∈ found := by
  induction reached with
  | self => exact start
  | @through id w x e known pending waits _ ih =>
    exact ih (follows.found_waits explored id (start.resolve_left pending) e known w waits)

/-- The mark of a command says whether it is finished. -/
theorem finished_iff (follows : t.Follows h) (held : t.records.get? id = some r)
    (known : h.get? id = some e) (command : e.command = true) :
    r.complete = true ↔ h.finished id := by
  obtain ⟨_, e', known', recorded⟩ := follows.records id r held
  rw [known] at known'
  cases known'
  exact recorded.finished command

/-- A search without end leaves nothing open once what it found is finished. -/
theorem found_finished (follows : t.Follows h) (explored : t.Explored halt [] found)
    (behind : ∀ x ∈ found, h.Complete x ∨ h.Reached id x) (x : EventId) :
    x ∈ found → (h.finish (h.Reached id)).Complete x := by
  have extended : Extends h (h.finish (h.Reached id)) := EventHistory.extends_finish _
  induction x using Nat.strongRecOn with
  | ind x ih =>
    intro member
    obtain ⟨r, unfinished, _, _⟩ := explored x member
    obtain ⟨_, e, known, recorded⟩ := follows.records x r unfinished.1
    cases kind : e.command with
    | true =>
      refine .command known kind ?_
      rcases behind x member with complete | reached
      · exact .inl ((EventHistory.complete_command known kind).1 complete)
      · exact .inr reached
    | false =>
      refine .marker known kind fun w waits => ?_
      rcases follows.found_waits explored x member e known w waits with complete | found
      · exact extended.complete complete
      · exact ih w (follows.ordered.waits x e known w waits).2 found

/-- A wait is answered as the history answers it. -/
theorem answers_drain (follows : t.Follows h) (id : EventId) :
    Answers ((EventRequest.drain id).onTable t) ((EventRequest.drain id).onHistory h) := by
  simp only [EventRequest.onTable, EventRequest.onHistory, drain, EventHistory.drain, unfinished,
    EventHistory.check]
  by_cases issued : h.Issued id
  · have searched := searched_from follows.closed (follows.valid issued) fun _ => false
    rcases ran : t.explore (fun _ => false) [id] [] with e | _ | found <;> rw [ran] at searched
    · cases searched
    · cases searched with
      | stopped _ _ _ stop => cases stop
    cases searched with
    | exhausted _ _ visited explored origin =>
      have start : h.Complete id ∨ id ∈ found :=
        (visited id (List.mem_singleton_self id)).imp_left (follows.complete_of_done issued)
      have behind (x : EventId) (member : x ∈ found) : h.Complete x ∨ h.Reached id x := by
        rcases origin x member with old | ⟨id', only, leads⟩
        · cases old
        · rw [List.mem_singleton.1 only] at leads
          exact leads_reached follows leads
      have next := follows_finishAll follows (h.Reached id) found ?_ ?_ ?_
      · obtain ⟨t', retired, next⟩ := follows_retireCovered next
        simp only [if_pos issued, bind, Except.bind, pure, Except.pure, Option.getD_some, retired]
        exact .given none next
      · exact fun x reached => reached.issued follows.ordered issued
      · intro x r e held known command
        have finished := finished_iff follows held known command
        rw [finished, ← EventHistory.complete_command known command]
        constructor
        · rintro (complete | member)
          · exact .inl complete
          · exact behind x member
        · rintro (complete | reached)
          · exact .inl complete
          · exact reached_found follows explored reached start
      · exact found_finished follows explored behind
  · rw [follows.explore_error issued, if_neg issued]
    exact .refused _

/-- An event may be completed by name if that makes it complete. -/
theorem answers_complete (follows : t.Follows h) (id : EventId)
    (settles : h.Issued id → (h.finish fun x => x = id).Complete id) :
    Answers ((EventRequest.complete id).onTable t) ((EventRequest.complete id).onHistory h) := by
  simp only [EventRequest.onTable, EventRequest.onHistory, complete, EventHistory.complete,
    EventHistory.check]
  by_cases issued : h.Issued id
  · have next := follows_finishAll follows (fun x => x = id) [id] ?_ ?_ ?_
    · rw [follows.lookup, if_pos issued, if_pos issued]
      exact .given none next
    · rintro x rfl
      exact issued
    · intro x r e held known command
      rw [finished_iff follows held known command, List.mem_singleton]
    · intro x member
      rw [List.mem_singleton.1 member]
      exact settles issued
  · rw [follows.lookup, if_neg issued, if_neg issued]
    exact .refused _

private theorem answers_request (follows : t.Follows h) (request : EventRequest)
    (admitted : request.Admitted h) : Answers (request.onTable t) (request.onHistory h) := by
  cases request with
  | record kind command wait => exact answers_record follows kind command wait
  | marker wait => exact answers_marker follows wait
  | drain id => exact answers_drain follows id
  | complete id =>
    refine answers_complete follows id fun issued => ?_
    obtain ⟨e, known⟩ := EventHistory.known_iff.2 issued
    exact .command known (admitted e known) (.inr rfl)
  | clear => exact .given none (follows_clear follows)

/-- A table follows the history of all that was observed. -/
theorem follows_of_observed (observed : Observed t h) : t.Follows h := by
  induction observed with
  | start deferred => exact follows_start deferred
  | step _ request admitted ih => exact (answers_request ih request admitted).follows ih

/-- After any requests a table answers as the history of all events does. A handle is good if it was
handed out since the last clear; whether the event is complete is what the history says, and what was
dropped is complete. -/
theorem retirement_unobservable (observed : Observed t h) :
    (∀ request : EventRequest, request.Admitted h →
      (request.onTable t).map Prod.fst = (request.onHistory h).map Prod.fst) ∧
    (∀ id, (t.isComplete id = .error (.invalidEvent id) ↔ ¬ h.Issued id) ∧
      (h.Issued id → ∃ complete, t.isComplete id = .ok complete ∧ (complete = true ↔ h.Complete id)) ∧
      (t.lookup id = .ok none → h.Complete id)) ∧
    ∃ answer, t.marker [] = .ok answer := by
  have follows := follows_of_observed observed
  refine ⟨fun request admitted => (answers_request follows request admitted).same,
    fun id => ⟨⟨fun failed issued => ?_, follows.isComplete_error⟩, follows.isComplete_ok,
      fun dropped => ?_⟩, ?_⟩
  · obtain ⟨complete, ran, _⟩ := follows.isComplete_ok issued
    rw [failed] at ran
    cases ran
  · rw [follows.lookup] at dropped
    by_cases issued : h.Issued id
    · rw [if_pos issued] at dropped
      exact follows.complete_of_done issued (done_of_dropped (Except.ok.inj dropped))
    · rw [if_neg issued] at dropped
      cases dropped
  · have same := (answers_marker follows []).same
    rcases made : t.marker [] with e | answer
    · simp only [EventRequest.onTable, made] at same
      cases same
    · exact ⟨answer, rfl⟩

/-- A table of deferred commands, after a command, a full marker over it and a wait for the marker. -/
def waited : EventTable :=
  [EventRequest.record .write nofun [], .marker [], .drain 2].foldl
    (fun t request => settled t (request.onTable t)) { deferred := true }

/-- The command is dropped then, and it was complete before. -/
theorem waited_unobservable : ∃ h, Observed waited h ∧ waited.lookup 1 = .ok none ∧
    waited.isComplete 1 = .ok true ∧ h.Complete 1 := by
  have observed : Observed waited _ := .step (.step (.step (.start true) (.record .write nofun [])
    trivial) (.marker []) trivial) (.drain 2) trivial
  have dropped : waited.lookup 1 = .ok none := by cbv
  obtain ⟨_, judged, retired⟩ := (retirement_unobservable observed).2.1 1
  have finished := retired dropped
  obtain ⟨complete, ran, iff⟩ := judged (EventHistory.issued_of_complete finished)
  rw [iff.2 finished] at ran
  exact ⟨_, observed, dropped, ran, finished⟩

end EventTable
end Offload
