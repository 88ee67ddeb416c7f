import Offload.Device.Events

/-! The search through unfinished events. From an event it goes on to the events that it waits for,
unless it is complete or dropped. The search visits exactly what can be reached that way, each event
once, and stops at the first one that it was told to stop at. -/
namespace Offload.EventTable

variable {t : EventTable} {halt : EventRecord → Bool} {pending reached : List EventId}
  {id w x : EventId} {r : EventRecord}

/-- The record is there and is not marked complete. -/
def Open (t : EventTable) (id : EventId) (r : EventRecord) : Prop :=
  t.records.get? id = some r ∧ r.complete = false

/-- The event was dropped, or it is marked complete. -/
def Done (t : EventTable) (id : EventId) : Prop :=
  ∀ r, ¬ t.Open id r

/-- One event stands behind another one, through events that are not marked complete. -/
inductive Leads (t : EventTable) : EventId → EventId → Prop where
  | self (id : EventId) : Leads t id id
  | through {id w x : EventId} {r : EventRecord} (pending : t.Open id r) (waits : w ∈ r.deps)
      (rest : Leads t w x) : Leads t id x

/-- The handle is good. -/
def Valid (t : EventTable) (id : EventId) : Prop :=
  t.lookup id = .ok (t.records.get? id)

/-- Open events wait for good handles only. -/
def Closed (t : EventTable) : Prop :=
  ∀ id r, t.Open id r → ∀ w ∈ r.deps, t.Valid w

/-- Every event found so far is open and none to stop at, and what it waits for is done, found or still
to be looked at. -/
def Explored (t : EventTable) (halt : EventRecord → Bool) (pending reached : List EventId) : Prop :=
  ∀ x ∈ reached, ∃ r, t.Open x r ∧ halt r = false ∧ ∀ w ∈ r.deps, t.Done w ∨ w ∈ reached ∨ w ∈ pending

theorem done_of_dropped (dropped : t.records.get? id = none) : t.Done id := by
  rintro r ⟨found, _⟩
  rw [dropped] at found
  cases found

theorem done_of_complete (found : t.records.get? id = some r) (complete : r.complete = true) :
    t.Done id := by
  rintro r' ⟨found', unfinished⟩
  rw [found] at found'
  cases found'
  rw [complete] at unfinished
  cases unfinished

theorem lookup_ok {found : Option EventRecord} (looked : t.lookup id = .ok found) :
    t.records.get? id = found := by
  unfold lookup at looked
  split at looked
  · next held =>
    cases looked
    exact held
  · next dropped =>
    split at looked <;> cases looked
    exact dropped

/-! ### One step of the search -/

theorem explore_done (valid : t.Valid id) (done : t.Done id ∨ id ∈ reached) :
    t.explore halt (id :: pending) reached = t.explore halt pending reached := by
  rw [explore]
  split
  · next failed => rw [valid] at failed; cases failed
  · rfl
  · next r found =>
    rw [valid] at found
    cases complete : r.complete with
    | true => simp
    | false =>
      have visited : id ∈ reached :=
        done.resolve_left fun done => done r ⟨Except.ok.inj found, complete⟩
      simp [visited]

theorem explore_open (valid : t.Valid id) (unfinished : t.Open id r) (fresh : id ∉ reached) :
    t.explore halt (id :: pending) reached =
      if halt r then .ok none
      else t.explore halt (r.deps.reverse ++ pending) (id :: reached) := by
  rw [explore]
  split
  · next failed => rw [valid] at failed; cases failed
  · next found => rw [valid, unfinished.1] at found; cases found
  · next found =>
    rw [valid, unfinished.1] at found
    cases found
    simp [unfinished.2, fresh]

theorem explore_refused {e : DeviceError} (refused : t.lookup id = .error e) :
    t.explore halt (id :: pending) reached = .error e := by
  rw [explore]
  split
  · next failed =>
    rw [refused] at failed
    cases failed
    rfl
  · next found => rw [refused] at found; cases found
  · next found => rw [refused] at found; cases found

/-- Looking into one more event. -/
theorem explored_open (explored : t.Explored halt (id :: pending) reached) (unfinished : t.Open id r)
    (pass : halt r = false) : t.Explored halt (r.deps.reverse ++ pending) (id :: reached) := by
  intro x member
  rcases List.mem_cons.1 member with rfl | old
  · exact ⟨r, unfinished, pass, fun w waits => .inr (.inr (by simp [waits]))⟩
  · obtain ⟨r', unfinished', pass', deps⟩ := explored x old
    refine ⟨r', unfinished', pass', fun w waits => ?_⟩
    rcases deps w waits with done | found | left
    · exact .inl done
    · exact .inr (.inl (List.mem_cons_of_mem _ found))
    · rcases List.mem_cons.1 left with rfl | left
      · exact .inr (.inl (List.mem_cons_self ..))
      · exact .inr (.inr (List.mem_append_right _ left))

/-- Passing over an event that is done or was looked into before. -/
theorem explored_done (explored : t.Explored halt (id :: pending) reached)
    (done : t.Done id ∨ id ∈ reached) : t.Explored halt pending reached := by
  intro x member
  obtain ⟨r, unfinished, pass, deps⟩ := explored x member
  refine ⟨r, unfinished, pass, fun w waits => ?_⟩
  rcases deps w waits with settled | found | left
  · exact .inl settled
  · exact .inr (.inl found)
  · rcases List.mem_cons.1 left with rfl | left
    · rcases done with settled | found
      · exact .inl settled
      · exact .inr (.inl found)
    · exact .inr (.inr left)

/-! ### The whole search -/

/-- What a search comes to: an event to stop at, or everything that is open behind the pending events
and nothing else. -/
inductive Searched (t : EventTable) (halt : EventRecord → Bool) (pending reached : List EventId) :
    Except DeviceError (Option (List EventId)) → Prop where
  | stopped {id x : EventId} {r : EventRecord} (start : id ∈ pending) (leads : t.Leads id x)
      (unfinished : t.Open x r) (stop : halt r = true) : Searched t halt pending reached (.ok none)
  | exhausted (found : List EventId) (kept : ∀ x ∈ reached, x ∈ found)
      (visited : ∀ id ∈ pending, t.Done id ∨ id ∈ found) (explored : t.Explored halt [] found)
      (origin : ∀ x ∈ found, x ∈ reached ∨ ∃ id ∈ pending, t.Leads id x) :
      Searched t halt pending reached (.ok (some found))

private theorem searched_done {answer : Except DeviceError (Option (List EventId))}
    (done : t.Done id ∨ id ∈ reached) (rest : t.Searched halt pending reached answer) :
    t.Searched halt (id :: pending) reached answer := by
  cases rest with
  | stopped start leads unfinished stop =>
    exact .stopped (List.mem_cons_of_mem _ start) leads unfinished stop
  | exhausted found kept visited explored origin =>
    refine .exhausted found kept ?_ explored ?_
    · intro id' member
      rcases List.mem_cons.1 member with rfl | left
      · exact done.imp_right (kept id')
      · exact visited id' left
    · intro x member
      refine (origin x member).imp_right ?_
      rintro ⟨start, left, leads⟩
      exact ⟨start, List.mem_cons_of_mem _ left, leads⟩

private theorem searched_open {answer : Except DeviceError (Option (List EventId))} (unfinished : t.Open id r)
    (rest : t.Searched halt (r.deps.reverse ++ pending) (id :: reached) answer) :
    t.Searched halt (id :: pending) reached answer := by
  -- What is found behind a dependency is found behind the event itself.
  have behind {start x : EventId} (member : start ∈ r.deps.reverse ++ pending)
      (leads : t.Leads start x) : ∃ start ∈ id :: pending, t.Leads start x := by
    rcases List.mem_append.1 member with dep | left
    · exact ⟨id, List.mem_cons_self .., .through unfinished (List.mem_reverse.1 dep) leads⟩
    · exact ⟨start, List.mem_cons_of_mem _ left, leads⟩
  cases rest with
  | stopped start leads unfinished' stop =>
    obtain ⟨start', member, leads'⟩ := behind start leads
    exact .stopped member leads' unfinished' stop
  | exhausted found kept visited explored origin =>
    refine .exhausted found (fun x old => kept x (List.mem_cons_of_mem _ old)) ?_ explored ?_
    · intro id' member
      rcases List.mem_cons.1 member with rfl | left
      · exact .inr (kept id' (List.mem_cons_self ..))
      · exact visited id' (List.mem_append_right _ left)
    · intro x member
      rcases origin x member with old | ⟨start, left, leads⟩
      · rcases List.mem_cons.1 old with rfl | old
        · exact .inr ⟨x, List.mem_cons_self .., .self x⟩
        · exact .inl old
      · exact .inr (behind left leads)

private theorem searched_explore (closed : t.Closed) (valid : ∀ id ∈ pending, t.Valid id)
    (explored : t.Explored halt pending reached) :
    t.Searched halt pending reached (t.explore halt pending reached) := by
  induction pending, reached using explore.induct t halt with
  | case1 reached =>
    rw [explore]
    exact .exhausted reached (fun _ member => member) (by simp) explored fun x member => .inl member
  | case2 reached id rest e failed =>
    have good := valid id (List.mem_cons_self ..)
    rw [Valid, failed] at good
    cases good
  | case3 reached id rest dropped ih =>
    have done : t.Done id ∨ id ∈ reached := .inl (done_of_dropped (lookup_ok dropped))
    rw [explore_done (valid id (List.mem_cons_self ..)) done]
    exact searched_done done
      (ih (fun id' left => valid id' (List.mem_cons_of_mem _ left)) (explored_done explored done))
  | case4 reached id rest r found settled ih =>
    have done : t.Done id ∨ id ∈ reached := settled.imp_left (done_of_complete (lookup_ok found))
    rw [explore_done (valid id (List.mem_cons_self ..)) done]
    exact searched_done done
      (ih (fun id' left => valid id' (List.mem_cons_of_mem _ left)) (explored_done explored done))
  | case5 reached id rest r found fresh stop =>
    obtain ⟨unfinished, fresh⟩ := not_or.1 fresh
    have here : t.Open id r := ⟨lookup_ok found, Bool.eq_false_iff.2 unfinished⟩
    rw [explore_open (valid id (List.mem_cons_self ..)) here fresh, if_pos stop]
    exact .stopped (List.mem_cons_self ..) (.self id) here stop
  | case6 reached id rest r found fresh pass ih =>
    obtain ⟨unfinished, fresh⟩ := not_or.1 fresh
    have here : t.Open id r := ⟨lookup_ok found, Bool.eq_false_iff.2 unfinished⟩
    rw [explore_open (valid id (List.mem_cons_self ..)) here fresh, if_neg pass]
    refine searched_open here (ih ?_ (explored_open explored here (Bool.eq_false_iff.2 pass)))
    intro id' member
    rcases List.mem_append.1 member with dep | left
    · exact closed id r here id' (List.mem_reverse.1 dep)
    · exact valid id' (List.mem_cons_of_mem _ left)

/-- The search from one event. -/
theorem searched_from (closed : t.Closed) (valid : t.Valid id) (halt : EventRecord → Bool) :
    t.Searched halt [id] [] (t.explore halt [id] []) := by
  refine searched_explore closed ?_ nofun
  intro id' member
  rw [List.mem_singleton.1 member]
  exact valid

end Offload.EventTable
