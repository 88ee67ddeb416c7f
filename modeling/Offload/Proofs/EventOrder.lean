import Offload.Proofs.EventSearch

/-! The order in which a search finds events. Each event comes before what it waits for if that was not
found by then. The reverse of that order completes dependencies first as long as no search runs into what an
earlier part of it found, and a wait list tells whether that happens: two events on it that share a
dependency are tangled, unless the one is looked into on the way through the other. -/
namespace Offload.EventTable

variable {t : EventTable} {e k p w x y : EventId} {r : EventRecord} {seen extra : EventId → Prop}
  {pending todo front back reached middle found order done wait new : List EventId}

/-- An unfinished event that stands behind another one. An unfinished event is behind itself. -/
def Behind (t : EventTable) (e x : EventId) : Prop :=
  t.Leads e x ∧ ∃ r, t.Open x r

/-- Unfinished events wait for older ones. -/
def Older (t : EventTable) : Prop :=
  ∀ id r, t.Open id r → ∀ w ∈ r.deps, w < id

/-- Completed one after another, each event comes after the unfinished ones that it waits for; those of
`done` were completed before. -/
def InOrder (t : EventTable) (done : List EventId) : List EventId → Prop
  | [] => True
  | x :: rest => (∀ r, t.Open x r → ∀ w ∈ r.deps, t.Done w ∨ w ∈ done) ∧ t.InOrder (done ++ [x]) rest

/-- Of two events on a wait list the earlier one is not behind any later one, and yet something stands behind
both. -/
def Tangled (t : EventTable) (wait : List EventId) : Prop :=
  ∃ front p back, wait = front ++ p :: back ∧ (∀ q ∈ back, ¬ t.Behind q p) ∧
    ∃ q ∈ back, ∃ x, t.Behind p x ∧ t.Behind q x

/-! ### What stands behind an event -/

private theorem Leads.trans (first : t.Leads x y) (second : t.Leads y w) : t.Leads x w := by
  induction first with
  | self => exact second
  | through unfinished waits _ ih => exact .through unfinished waits (ih second)

theorem Leads.le (older : t.Older) (leads : t.Leads x y) : y ≤ x := by
  induction leads with
  | self => exact Nat.le_refl _
  | through unfinished waits _ ih => exact Nat.le_trans ih (Nat.le_of_lt (older _ _ unfinished _ waits))

private theorem behind_self (unfinished : t.Open x r) : t.Behind x x :=
  ⟨.self x, r, unfinished⟩

theorem Behind.trans (first : t.Behind x y) (second : t.Behind y w) : t.Behind x w :=
  ⟨first.1.trans second.1, second.2⟩

theorem not_behind_of_done (settled : t.Done p) : ¬ t.Behind p x := by
  rintro ⟨leads, r, unfinished⟩
  cases leads with
  | self => exact settled r unfinished
  | through unfinished' => exact settled _ unfinished'

private theorem Behind.opened (behind : t.Behind p x) : ∃ r, t.Open p r := by
  obtain ⟨leads, unfinished⟩ := behind
  cases leads with
  | self => exact unfinished
  | through pending => exact ⟨_, pending⟩

private theorem behind_iff (unfinished : t.Open p r) : t.Behind p x ↔ x = p ∨ ∃ w ∈ r.deps, t.Behind w x := by
  constructor
  · rintro ⟨leads, behind⟩
    cases leads with
    | self => exact .inl rfl
    | through unfinished' waits rest =>
      cases unfinished.1.symm.trans unfinished'.1
      exact .inr ⟨_, waits, rest, behind⟩
  · rintro (rfl | ⟨w, waits, leads, behind⟩)
    · exact behind_self unfinished
    · exact ⟨.through unfinished waits leads, behind⟩

/-! ### The search as a walk -/

/-- A walk through the events of a list and what stands behind them, the last found first. An event that is
looked into is followed by everything behind it before the next one on the list. -/
inductive Visits (t : EventTable) : List EventId → List EventId → List EventId → Prop where
  | done (reached : List EventId) : Visits t [] reached reached
  | skip {p : EventId} {rest reached found : List EventId} (settled : t.Done p ∨ p ∈ reached)
      (others : Visits t rest reached found) : Visits t (p :: rest) reached found
  | enter {p : EventId} {r : EventRecord} {rest reached middle found : List EventId}
      (unfinished : t.Open p r) (fresh : p ∉ reached)
      (behind : Visits t r.deps.reverse (p :: reached) middle) (others : Visits t rest middle found) :
      Visits t (p :: rest) reached found

private theorem Visits.split (visits : t.Visits todo reached found) (front : List EventId)
    (parts : todo = front ++ back) : ∃ middle, t.Visits front reached middle ∧ t.Visits back middle found := by
  induction visits generalizing front with
  | done reached =>
    obtain ⟨rfl, rfl⟩ := List.append_eq_nil_iff.1 parts.symm
    exact ⟨reached, .done reached, .done reached⟩
  | @skip p rest reached found settled others ih =>
    rcases front with _ | ⟨q, front⟩
    · cases parts
      exact ⟨reached, .done reached, .skip settled others⟩
    · cases parts
      obtain ⟨middle, first, second⟩ := ih front rfl
      exact ⟨middle, .skip settled first, second⟩
  | @enter p r rest reached middle found unfinished fresh behind others _ ih =>
    rcases front with _ | ⟨q, front⟩
    · cases parts
      exact ⟨reached, .done reached, .enter unfinished fresh behind others⟩
    · cases parts
      obtain ⟨last, first, second⟩ := ih front rfl
      exact ⟨last, .enter unfinished fresh behind first, second⟩

/-- A search that nothing stops is such a walk. -/
theorem visits_explore {events : Option (List EventId)}
    (ran : t.explore (fun _ => false) pending reached = .ok events) :
    ∃ found, events = some found ∧ t.Visits pending reached found := by
  induction pending, reached using explore.induct t fun _ => false with
  | case1 reached =>
    rw [explore] at ran
    cases ran
    exact ⟨_, rfl, .done _⟩
  | case2 reached id rest e failed =>
    rw [explore_refused failed] at ran
    cases ran
  | case3 reached id rest dropped ih =>
    have done : t.Done id ∨ id ∈ reached := .inl (done_of_dropped (lookup_ok dropped))
    rw [explore_done (dropped.trans (by rw [lookup_ok dropped])) done] at ran
    obtain ⟨found, same, others⟩ := ih ran
    exact ⟨found, same, .skip done others⟩
  | case4 reached id rest r held settled ih =>
    have done : t.Done id ∨ id ∈ reached := settled.imp_left (done_of_complete (lookup_ok held))
    rw [explore_done (held.trans (by rw [lookup_ok held])) done] at ran
    obtain ⟨found, same, others⟩ := ih ran
    exact ⟨found, same, .skip done others⟩
  | case5 _ _ _ _ _ _ stop => cases stop
  | case6 reached id rest r held fresh _ ih =>
    obtain ⟨unfinished, fresh⟩ := not_or.1 fresh
    have here : t.Open id r := ⟨lookup_ok held, Bool.eq_false_iff.2 unfinished⟩
    rw [explore_open (held.trans (by rw [lookup_ok held])) here fresh, if_neg Bool.false_ne_true] at ran
    obtain ⟨found, same, visits⟩ := ih ran
    obtain ⟨middle, behind, others⟩ := visits.split _ rfl
    exact ⟨found, same, .enter here fresh behind others⟩

/-! ### What a walk finds -/

/-- Below a bound nothing is missing behind what was found. -/
def ClosedBelow (t : EventTable) (k : EventId) (found : List EventId) : Prop :=
  ∀ x ∈ found, x < k → ∀ y, t.Behind x y → y ∈ found

/-- A walk adds what is behind the events of its list and was not found before, each event once. -/
structure Adds (t : EventTable) (k : EventId) (todo reached new : List EventId) : Prop where
  once : new.Nodup
  fresh : ∀ x ∈ new, x ∉ reached
  behind : ∀ x, x ∈ new ++ reached ↔ x ∈ reached ∨ ∃ p ∈ todo, t.Behind p x
  closed : t.ClosedBelow k (new ++ reached)

/-- The events that are looked into now are above the bound of what is behind them: they are younger. -/
theorem closedBelow_cons (closed : t.ClosedBelow k reached) (below : p < k) :
    t.ClosedBelow p (p :: reached) := by
  intro x member younger y behind
  rcases List.mem_cons.1 member with rfl | old
  · exact absurd younger (Nat.lt_irrefl _)
  · exact List.mem_cons_of_mem _ (closed x old (Nat.lt_trans younger below) y behind)

private theorem mem_entered (unfinished : t.Open p r) (inner : t.Adds p r.deps.reverse (p :: reached) new)
    (x : EventId) : x ∈ new ++ p :: reached ↔ x ∈ reached ∨ t.Behind p x := by
  rw [inner.behind, behind_iff unfinished, List.mem_cons]
  simp only [List.mem_reverse]
  rw [or_assoc, or_left_comm]

private theorem behind_entered (unfinished : t.Open p r) (unvisited : p ∉ reached)
    (inner : t.Adds p r.deps.reverse (p :: reached) new) (member : x ∈ new ++ [p]) :
    t.Behind p x ∧ x ∉ reached := by
  rcases List.mem_append.1 member with inside | here
  · have fresh : x ∉ reached := fun before => inner.fresh x inside (List.mem_cons_of_mem _ before)
    have found := (mem_entered unfinished inner x).1 (List.mem_append_left _ inside)
    exact ⟨found.resolve_left fresh, fresh⟩
  · rw [List.mem_singleton.1 here]
    exact ⟨behind_self unfinished, unvisited⟩

/-- What is behind an event that is looked into is found before the next event of the list. -/
theorem closedBelow_entered (closed : t.ClosedBelow k reached) (unfinished : t.Open p r)
    (inner : t.Adds p r.deps.reverse (p :: reached) new) : t.ClosedBelow k (new ++ p :: reached) := by
  intro x member below y behind
  rw [mem_entered unfinished inner] at member ⊢
  rcases member with old | inside
  · exact .inl (closed x old below y behind)
  · exact .inr (inside.trans behind)

private theorem adds_enter {others rest : List EventId} (unfinished : t.Open p r) (unvisited : p ∉ reached)
    (inner : t.Adds p r.deps.reverse (p :: reached) new) (outer : t.Adds k rest (new ++ p :: reached) others) :
    t.Adds k (p :: rest) reached (others ++ (new ++ [p])) := by
  have parts : others ++ (new ++ [p]) ++ reached = others ++ (new ++ p :: reached) := by simp
  refine ⟨?_, ?_, fun x => ?_, parts ▸ outer.closed⟩
  · refine List.nodup_append.2 ⟨outer.once, List.nodup_append.2 ⟨inner.once, by simp, ?_⟩, ?_⟩
    · rintro x inside _ only rfl
      exact inner.fresh x inside (List.mem_singleton.1 only ▸ List.mem_cons_self ..)
    · rintro x late _ early rfl
      refine outer.fresh x late ?_
      simp only [List.mem_append, List.mem_cons, List.not_mem_nil, or_false] at early ⊢
      exact early.imp_right .inl
  · intro x member old
    rcases List.mem_append.1 member with late | early
    · exact outer.fresh x late (by simp [old])
    · rcases List.mem_append.1 early with inside | only
      · exact inner.fresh x inside (List.mem_cons_of_mem _ old)
      · exact unvisited (List.mem_singleton.1 only ▸ old)
  · simp only [parts, outer.behind, mem_entered unfinished inner, or_assoc, List.mem_cons, exists_eq_or_imp]

/-- By induction on the walk: what is behind an event is older, so that the events that are being looked into
do not count for it. -/
theorem Visits.adds (older : t.Older) (visits : t.Visits todo reached found) :
    ∀ k, (∀ p ∈ todo, p < k) → t.ClosedBelow k reached →
      ∃ new, found = new ++ reached ∧ t.Adds k todo reached new := by
  induction visits with
  | done reached =>
    intro k _ closed
    exact ⟨[], rfl, .nil, nofun, by simp, closed⟩
  | @skip p rest reached found settled _ ih =>
    intro k below closed
    obtain ⟨younger, below⟩ := List.forall_mem_cons.1 below
    obtain ⟨new, same, adds⟩ := ih k below closed
    refine ⟨new, same, adds.once, adds.fresh, fun x => ?_, adds.closed⟩
    have nothing (behind : t.Behind p x) : x ∈ reached := by
      rcases settled with settled | visited
      · exact absurd behind (not_behind_of_done settled)
      · exact closed p visited younger x behind
    simp only [adds.behind, List.mem_cons, exists_eq_or_imp]
    rw [← or_assoc, or_iff_left_of_imp nothing]
  | @enter p r rest reached middle found unfinished fresh _ _ ih ih' =>
    intro k below closed
    obtain ⟨younger, below⟩ := List.forall_mem_cons.1 below
    obtain ⟨new, rfl, inner⟩ := ih p (fun w waits => older p r unfinished w (List.mem_reverse.1 waits))
      (closedBelow_cons closed younger)
    obtain ⟨others, rfl, outer⟩ := ih' k below (closedBelow_entered closed unfinished inner)
    exact ⟨others ++ (new ++ [p]), by simp, adds_enter unfinished fresh inner outer⟩

/-! ### Orders -/

private theorem inOrder_append :
    t.InOrder done (front ++ back) ↔ t.InOrder done front ∧ t.InOrder (done ++ front) back := by
  induction front generalizing done with
  | nil => simp [InOrder]
  | cons x rest ih => simp [InOrder, ih, and_assoc]

/-- Events that nothing of a list waits for do not matter to its order. -/
theorem inOrder_apart (apart : ∀ x ∈ order, ∀ r, t.Open x r → ∀ w ∈ r.deps, w ∉ front) :
    t.InOrder (front ++ done) order ↔ t.InOrder done order := by
  induction order generalizing done with
  | nil => exact Iff.rfl
  | cons x rest ih =>
    obtain ⟨here, later⟩ := List.forall_mem_cons.1 apart
    rw [InOrder, InOrder, List.append_assoc, ih later]
    refine and_congr_left fun _ => forall_congr' fun r => forall_congr' fun unfinished =>
      forall_congr' fun w => forall_congr' fun waits => ?_
    rw [List.mem_append, or_iff_right (here r unfinished w waits)]

/-- Everything that an event in order waits for is among those before it and those in the list. -/
theorem InOrder.closed (inOrder : t.InOrder done order) (member : x ∈ order) (unfinished : t.Open x r)
    (waits : w ∈ r.deps) : t.Done w ∨ w ∈ done ∨ w ∈ order := by
  induction order generalizing done with
  | nil => cases member
  | cons y rest ih =>
    rcases List.mem_cons.1 member with rfl | later
    · exact (inOrder.1 r unfinished w waits).imp_right .inl
    · rcases ih inOrder.2 later with settled | before | inside
      · exact .inl settled
      · rcases List.mem_append.1 before with before | here
        · exact .inr (.inl before)
        · exact .inr (.inr (List.mem_singleton.1 here ▸ List.mem_cons_self ..))
      · exact .inr (.inr (List.mem_cons_of_mem _ inside))

/-! ### Tangles -/

/-- Taken one after another, the events of a list run into nothing that was seen: an event was seen itself, or
nothing behind it was. -/
def Untangled (t : EventTable) (seen : EventId → Prop) : List EventId → Prop
  | [] => True
  | p :: rest => (seen p ∨ ∀ x, t.Behind p x → ¬ seen x) ∧ t.Untangled (fun x => seen x ∨ t.Behind p x) rest

private theorem untangled_congr {others : EventId → Prop} (same : ∀ x, seen x ↔ others x) :
    t.Untangled seen todo ↔ t.Untangled others todo := by
  rw [funext fun x => propext (same x)]

/-- The same of each event and those before it. -/
theorem untangled_iff : t.Untangled seen todo ↔ ∀ early p late, todo = early ++ p :: late →
    (seen p ∨ ∃ q ∈ early, t.Behind q p) ∨ ∀ x, t.Behind p x → ¬ seen x ∧ ∀ q ∈ early, ¬ t.Behind q x := by
  induction todo generalizing seen with
  | nil =>
    refine iff_of_true trivial fun early p late parts => ?_
    cases early <;> cases parts
  | cons q rest ih =>
    rw [Untangled, ih]
    constructor
    · rintro ⟨here, later⟩ early p late parts
      rcases early with _ | ⟨first, early⟩
      · cases parts
        exact here.imp .inl fun clear x behind => ⟨clear x behind, nofun⟩
      · cases parts
        rcases later early p late rfl with ((before | behind) | ⟨q', member, behind⟩) | clear
        · exact .inl (.inl before)
        · exact .inl (.inr ⟨q, List.mem_cons_self .., behind⟩)
        · exact .inl (.inr ⟨q', List.mem_cons_of_mem _ member, behind⟩)
        · refine .inr fun x behind => ?_
          obtain ⟨new, others⟩ := clear x behind
          exact ⟨fun before => new (.inl before), List.forall_mem_cons.2 ⟨fun first => new (.inr first), others⟩⟩
    · intro all
      refine ⟨?_, fun early p late parts => ?_⟩
      · rcases all [] q rest rfl with (before | ⟨_, member, _⟩) | clear
        · exact .inl before
        · cases member
        · exact .inr fun x behind => (clear x behind).1
      · rcases all (q :: early) p late (by rw [parts]; rfl) with (before | ⟨q', member, behind⟩) | clear
        · exact .inl (.inl (.inl before))
        · rcases List.mem_cons.1 member with rfl | member
          · exact .inl (.inl (.inr behind))
          · exact .inl (.inr ⟨q', member, behind⟩)
        · refine .inr fun x behind => ?_
          obtain ⟨new, others⟩ := clear x behind
          obtain ⟨first, others⟩ := List.forall_mem_cons.1 others
          exact ⟨fun seen => seen.elim new first, others⟩

/-- The search takes a wait list from its end. -/
theorem untangled_reverse : t.Untangled (fun _ => False) wait.reverse ↔ ¬ t.Tangled wait := by
  rw [untangled_iff]
  constructor
  · rintro clear ⟨front, p, back, rfl, apart, q, member, x, behind, shared⟩
    have parts : (front ++ p :: back).reverse = back.reverse ++ p :: front.reverse := by simp
    rcases clear _ _ _ parts with (⟨⟨⟩⟩ | ⟨q', member', inside⟩) | none
    · exact apart q' (List.mem_reverse.1 member') inside
    · exact (none x behind).2 q (List.mem_reverse.2 member) shared
  · intro apart early p late parts
    by_cases inside : ∃ q ∈ early, t.Behind q p
    · exact .inl (.inr inside)
    refine .inr fun x behind => ⟨nofun, fun q member shared => apart ?_⟩
    refine ⟨late.reverse, p, early.reverse, ?_, ?_, q, List.mem_reverse.2 member, x, behind, shared⟩
    · rw [← List.reverse_reverse wait, parts]
      simp
    · exact fun q' member' inside' => inside ⟨q', List.mem_reverse.1 member', inside'⟩

/-- What is not behind any event of the list does not matter to it. -/
theorem untangled_apart (apart : ∀ p ∈ todo, ∀ x, t.Behind p x → ¬ extra x) :
    t.Untangled (fun x => seen x ∨ extra x) todo ↔ t.Untangled seen todo := by
  induction todo generalizing seen with
  | nil => exact Iff.rfl
  | cons p rest ih =>
    obtain ⟨here, later⟩ := List.forall_mem_cons.1 apart
    have others : t.Untangled (fun x => (seen x ∨ extra x) ∨ t.Behind p x) rest ↔
        t.Untangled (fun x => seen x ∨ t.Behind p x) rest :=
      (untangled_congr fun x => or_right_comm).trans (ih later)
    rw [Untangled, Untangled, others]
    refine and_congr_left fun _ => ?_
    have behind : (∀ x, t.Behind p x → ¬ (seen x ∨ extra x)) ↔ ∀ x, t.Behind p x → ¬ seen x :=
      forall_congr' fun x => forall_congr' fun behind => by rw [or_iff_left (here x behind)]
    rw [behind]
    constructor
    · rintro ((before | beyond) | clear)
      · exact .inl before
      · -- an event outside everything behind itself is not unfinished
        exact .inr fun x inside => absurd beyond (here p ⟨.self p, inside.opened⟩)
      · exact .inr clear
    · rintro (before | clear)
      · exact .inl (.inl before)
      · exact .inr clear

/-- From an event in order, what stands behind it is in that order as well. -/
theorem mem_of_leads (next : ∀ y r, y ∈ order → t.Open y r → ∀ w ∈ r.deps, t.Done w ∨ w ∈ order)
    (leads : t.Leads y x) (unfinished : t.Open x r) (start : y ∈ order) : x ∈ order := by
  induction leads with
  | self => exact start
  | @through id w x r' pending waits rest ih =>
    rcases next id r' start pending w waits with settled | inside
    · exact absurd ⟨rest, r, unfinished⟩ (not_behind_of_done settled)
    · exact ih unfinished inside

/-- An event that runs into nothing that was found before: its wait list does not either, as nothing behind that is
the event itself. -/
theorem untangled_entered (older : t.Older) (unfinished : t.Open p r) (clear : ∀ x, t.Behind p x → x ∉ reached) :
    t.Untangled (· ∈ p :: reached) r.deps.reverse ↔ t.Untangled (fun _ => False) r.deps.reverse := by
  have same (x : EventId) : x ∈ p :: reached ↔ False ∨ x ∈ p :: reached := by simp
  refine (untangled_congr same).trans (untangled_apart fun w waits x behind member => ?_)
  have waits := List.mem_reverse.1 waits
  rcases List.mem_cons.1 member with rfl | before
  · exact absurd (older x r unfinished w waits) (Nat.not_lt.2 (behind.1.le older))
  · exact clear x ((behind_iff unfinished).2 (.inr ⟨w, waits, behind⟩)) before

/-- Then what it waits for is found from it on, or done. -/
theorem waits_entered (older : t.Older) (unfinished : t.Open p r)
    (inner : t.Adds p r.deps.reverse (p :: reached) new) (clear : ∀ x, t.Behind p x → x ∉ reached)
    (waits : w ∈ r.deps) : t.Done w ∨ w ∈ new := by
  by_cases settled : t.Done w
  · exact .inl settled
  obtain ⟨r', pending⟩ := Classical.not_forall_not.1 settled
  have behind : t.Behind p w := (behind_iff unfinished).2 (.inr ⟨w, waits, behind_self pending⟩)
  rcases List.mem_append.1 ((mem_entered unfinished inner w).2 (.inr behind)) with inside | before
  · exact .inr inside
  · rcases List.mem_cons.1 before with rfl | before
    · exact absurd (older w r unfinished w waits) (Nat.lt_irrefl _)
    · exact absurd before (clear w behind)

/-- What is found from an event on, before the rest of its list, is in order if that event runs into nothing
that was found before and no wait list on the way is tangled. -/
theorem inOrder_entered_iff (older : t.Older) (unfinished : t.Open p r) (unvisited : p ∉ reached)
    (inner : t.Adds p r.deps.reverse (p :: reached) new)
    (judged : t.InOrder [] new ↔ t.Untangled (· ∈ p :: reached) r.deps.reverse ∧
      ∀ x ∈ new, ∀ r, t.Open x r → t.Untangled (fun _ => False) r.deps.reverse) :
    t.InOrder [] (new ++ [p]) ↔ (∀ x, t.Behind p x → x ∉ reached) ∧
      ∀ x ∈ new ++ [p], ∀ r, t.Open x r → t.Untangled (fun _ => False) r.deps.reverse := by
  have only {r' : EventRecord} (pending : t.Open p r') : r' = r :=
    Option.some.inj (pending.1.symm.trans unfinished.1)
  simp only [inOrder_append, InOrder, and_true, List.nil_append]
  constructor
  · rintro ⟨inOrder, last⟩
    have next (y : EventId) (r' : EventRecord) (inside : y ∈ new ++ [p]) (pending : t.Open y r') (w : EventId)
        (waits : w ∈ r'.deps) : t.Done w ∨ w ∈ new ++ [p] := by
      rcases List.mem_append.1 inside with inside | here
      · refine (inOrder.closed inside pending waits).imp_right ?_
        rintro (before | inside)
        · cases before
        · exact List.mem_append_left _ inside
      · rw [List.mem_singleton.1 here] at pending
        exact (last r' pending w waits).imp_right (List.mem_append_left _)
    have clear (x : EventId) (behind : t.Behind p x) : x ∉ reached := by
      obtain ⟨leads, r', pending⟩ := behind
      exact (behind_entered unfinished unvisited inner (mem_of_leads next leads pending (by simp))).2
    obtain ⟨own, others⟩ := judged.1 inOrder
    refine ⟨clear, fun x member r' pending => ?_⟩
    rcases List.mem_append.1 member with inside | here
    · exact others x inside r' pending
    · rw [List.mem_singleton.1 here] at pending
      exact only pending ▸ (untangled_entered older unfinished clear).1 own
  · rintro ⟨clear, untangled⟩
    have own := (untangled_entered older unfinished clear).2 (untangled p (by simp) r unfinished)
    refine ⟨judged.2 ⟨own, fun x inside => untangled x (List.mem_append_left _ inside)⟩, ?_⟩
    intro r' pending w waits
    exact waits_entered older unfinished inner clear (only pending ▸ waits)

/-- What is found later is not waited for here: everything behind the event was found by then. -/
theorem not_later_of_entered {rest late : List EventId} {r' : EventRecord} (unfinished : t.Open p r)
    (fresh : p ∉ reached) (inner : t.Adds p r.deps.reverse (p :: reached) new)
    (outer : t.Adds k rest (new ++ p :: reached) late) (member : x ∈ new ++ [p]) (pending : t.Open x r')
    (waits : w ∈ r'.deps) : w ∉ late := by
  intro found
  have opened : ∃ r, t.Open w r := by
    rcases (outer.behind w).1 (List.mem_append_left _ found) with before | ⟨q, _, behind⟩
    · exact absurd before (outer.fresh w found)
    · exact behind.2
  have behind := (behind_entered unfinished fresh inner member).1.trans ⟨.through pending waits (.self w), opened⟩
  exact outer.fresh w found ((mem_entered unfinished inner w).2 (.inr behind))

/-- A walk is in order if it runs into nothing that was found before and comes across no tangled wait list. -/
theorem Visits.inOrder_iff (older : t.Older) (visits : t.Visits todo reached found) :
    ∀ k new, (∀ p ∈ todo, p < k) → t.ClosedBelow k reached → found = new ++ reached →
      (t.InOrder [] new ↔ t.Untangled (· ∈ reached) todo ∧
        ∀ x ∈ new, ∀ r, t.Open x r → t.Untangled (fun _ => False) r.deps.reverse) := by
  induction visits with
  | done reached =>
    intro k new _ _ same
    rw [List.self_eq_append_left] at same
    subst same
    simp [InOrder, Untangled]
  | @skip p rest reached found settled _ ih =>
    intro k new below closed same
    obtain ⟨younger, below⟩ := List.forall_mem_cons.1 below
    have nothing (x : EventId) (behind : t.Behind p x) : x ∈ reached ∧ p ∈ reached := by
      rcases settled with settled | visited
      · exact absurd behind (not_behind_of_done settled)
      · exact ⟨closed p visited younger x behind, visited⟩
    have here : p ∈ reached ∨ ∀ x, t.Behind p x → x ∉ reached := by
      rcases settled with settled | visited
      · exact .inr fun x behind => absurd behind (not_behind_of_done settled)
      · exact .inl visited
    rw [ih k new below closed same, Untangled, and_iff_right here,
      untangled_congr fun x => or_iff_left_of_imp fun behind => (nothing x behind).1]
  | @enter p r rest reached middle found unfinished fresh behind others ih ih' =>
    intro k all below closed same
    obtain ⟨younger, below⟩ := List.forall_mem_cons.1 below
    have older' : ∀ w ∈ r.deps.reverse, w < p := fun w waits => older p r unfinished w (List.mem_reverse.1 waits)
    have closed' := closedBelow_cons closed younger
    obtain ⟨new, rfl, inner⟩ := behind.adds older p older' closed'
    have closed'' := closedBelow_entered closed unfinished inner
    obtain ⟨late, rfl, outer⟩ := others.adds older k below closed''
    have parts : all = late ++ (new ++ [p]) := by
      refine List.append_cancel_right (same.symm.trans ?_)
      simp
    subst parts
    have entered := inOrder_entered_iff older unfinished fresh inner (ih p new older' closed' rfl)
    have apart : ∀ x ∈ new ++ [p], ∀ r, t.Open x r → ∀ w ∈ r.deps, w ∉ late := fun x member r' pending w waits =>
      not_later_of_entered unfinished fresh inner outer member pending waits
    have content (x : EventId) : x ∈ new ++ p :: reached ↔ x ∈ reached ∨ t.Behind p x :=
      mem_entered unfinished inner x
    have clear : (p ∈ reached ∨ ∀ x, t.Behind p x → x ∉ reached) ↔ ∀ x, t.Behind p x → x ∉ reached :=
      or_iff_right fresh
    rw [inOrder_append, List.nil_append, ← List.append_nil late, inOrder_apart (by simpa using apart), List.append_nil,
      entered, ih' k late below closed'' rfl, untangled_congr content, Untangled, clear]
    simp only [List.forall_mem_append]
    constructor
    · rintro ⟨⟨first, lateOnes⟩, clear, entered⟩
      exact ⟨⟨clear, first⟩, lateOnes, entered⟩
    · rintro ⟨⟨clear, first⟩, lateOnes, entered⟩
      exact ⟨⟨first, lateOnes⟩, clear, entered⟩

/-- The unfinished events behind an event are found, each once, and what a wait completes first is in order if
and only if no wait list among theirs is tangled. -/
theorem unfinished_order (older : t.Older) (found : t.unfinished e = .ok order) :
    order.Nodup ∧ (∀ x, x ∈ order ↔ t.Behind e x) ∧
      (t.InOrder [] order ↔ ∀ x r, t.Behind e x → t.Open x r → ¬ t.Tangled r.deps) := by
  have visits : t.Visits [e] [] order := by
    unfold unfinished at found
    rcases ran : t.explore (fun _ => false) [e] [] with _ | events <;> rw [ran] at found <;> cases found
    obtain ⟨_, rfl, visits⟩ := visits_explore ran
    exact visits
  have below : ∀ p ∈ [e], p < e + 1 := by simp
  obtain ⟨new, same, adds⟩ := visits.adds older (e + 1) below nofun
  have content (x : EventId) : x ∈ order ↔ t.Behind e x := by
    have found := adds.behind x
    rw [← same] at found
    simpa using found
  rw [List.append_nil] at same
  subst same
  refine ⟨adds.once, content, (visits.inOrder_iff older (e + 1) order below nofun (by simp)).trans ?_⟩
  rw [and_iff_right ⟨.inr fun x _ => List.not_mem_nil, trivial⟩]
  simp only [content, untangled_reverse]
  exact ⟨fun all x r behind unfinished => all x behind r unfinished,
    fun all x behind r unfinished => all x r behind unfinished⟩

end Offload.EventTable
