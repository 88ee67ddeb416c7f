import Offload.Proofs.EventOrder
import Offload.Proofs.Retirement

/-! What a wait for an event completes. The events behind it are marked, one after another, and after them a
full marker may be dropped to. That changes no answer for other events, unless the marker reads complete
although a command before it is not finished, which takes a marker that was completed by name. -/
namespace Offload.EventTable

variable {t t' : EventTable} {h : EventHistory} {e x y c : EventId} {r : EventRecord}
  {ids order fulls : List EventId}

/-- The command is unfinished, and the event is not complete before it is. -/
def Awaits (t : EventTable) (x c : EventId) : Prop :=
  t.Leads x c ∧ ∃ r, t.Open c r ∧ r.isCommand = true

/-- Once the events of `order` are finished the latest full marker reads complete, and a command from before
it is none of them. -/
def Forgets (t : EventTable) (order : List EventId) : Prop :=
  ∃ cut, t.lastFull = some cut ∧ (∀ c, t.Awaits cut c → c ∈ order) ∧ ∃ c < cut, t.Awaits c c ∧ c ∉ order

private theorem Tidy.ordered (tidy : t.Tidy fulls) : t.Older :=
  fun id r unfinished => tidy.older id r unfinished.1

/-- An event is complete if it awaits no command. -/
theorem Sound.isComplete_iff (sound : t.Sound) (known : t.Knows x) :
    t.isComplete x = .ok true ↔ ∀ c, ¬ t.Awaits x c := by
  have searched := searched_from sound.closed (sound.valid known) EventRecord.isCommand
  unfold isComplete
  rcases ran : t.explore EventRecord.isCommand [x] [] with e | _ | found <;> rw [ran] at searched
  · cases searched
  · cases searched with
    | stopped start leads unfinished stop =>
      rw [List.mem_singleton.1 start] at leads
      exact iff_of_false nofun fun none => none _ ⟨leads, _, unfinished, stop⟩
  · cases searched with
    | exhausted _ _ visited explored _ =>
      refine iff_of_true rfl fun c awaits => ?_
      obtain ⟨leads, r, unfinished, command⟩ := awaits
      rcases visited x (List.mem_singleton_self x) with settled | start
      · exact not_behind_of_done settled ⟨leads, r, unfinished⟩
      · have next (y : EventId) (r' : EventRecord) (inside : y ∈ found) (pending : t.Open y r') (w : EventId)
            (waits : w ∈ r'.deps) : t.Done w ∨ w ∈ found := by
          obtain ⟨_, pending', _, deps⟩ := explored y inside
          cases pending.1.symm.trans pending'.1
          exact (deps w waits).imp_right (·.resolve_right List.not_mem_nil)
        obtain ⟨_, unfinished', pass, _⟩ := explored c (mem_of_leads next leads unfinished start)
        cases unfinished.1.symm.trans unfinished'.1
        rw [pass] at command
        cases command

/-! ### After the events of a wait are finished -/

private theorem open_finishAll : (ids.foldl finish t).Open x r ↔ t.Open x r ∧ x ∉ ids := by
  obtain ⟨records, same, marked⟩ := finishAll_eq t ids
  rw [same]
  simp only [Open, marked]
  constructor
  · rintro ⟨held, unfinished⟩
    obtain ⟨r', held', rfl⟩ := Option.map_eq_some_iff.1 held
    by_cases member : x ∈ ids
    · rw [if_pos member] at unfinished
      cases unfinished
    · rw [if_neg member] at unfinished ⊢
      exact ⟨⟨held', unfinished⟩, member⟩
  · rintro ⟨⟨held, unfinished⟩, other⟩
    exact ⟨by rw [held, Option.map_some, if_neg other], unfinished⟩

/-- With fewer unfinished events, what is still behind an event was behind it before. -/
theorem Leads.mono (fewer : ∀ x r, t'.Open x r → t.Open x r) (leads : t'.Leads x y) : t.Leads x y := by
  induction leads with
  | self => exact .self _
  | through unfinished waits _ ih => exact .through (fewer _ _ unfinished) waits ih

/-- Finishing everything behind an event leaves those commands awaited that are not behind it. -/
theorem awaits_finishAll (behind : ∀ x, x ∈ order ↔ t.Behind e x) :
    (order.foldl finish t).Awaits x c ↔ t.Awaits x c ∧ c ∉ order := by
  constructor
  · rintro ⟨leads, r, unfinished, command⟩
    obtain ⟨unfinished, other⟩ := open_finishAll.1 unfinished
    exact ⟨⟨leads.mono fun _ _ unfinished => (open_finishAll.1 unfinished).1, r, unfinished, command⟩, other⟩
  · rintro ⟨⟨leads, r, unfinished, command⟩, other⟩
    refine ⟨?_, r, open_finishAll.2 ⟨unfinished, other⟩, command⟩
    -- no event on the way is finished, or else the command would be behind it
    induction leads with
    | self => exact .self _
    | @through id w c r' pending waits rest ih =>
      refine .through (open_finishAll.2 ⟨pending, fun finished => other ?_⟩) waits (ih other unfinished)
      exact (behind _).2 (((behind id).1 finished).trans ⟨.through pending waits rest, r, unfinished⟩)

/-! ### After older events are dropped -/

/-- What is left unfinished once the events before a full marker are dropped. -/
theorem open_covered {cut : EventId} {records : Table EventId EventRecord} {r' : EventRecord}
    (held : t.records.get? cut = some r)
    (same : records = (t.records.restrict fun id => cut ≤ id).insert cut
      { r with complete := true, deps := [] }) :
    Open { t with records, retiredTo := cut, lastFull := none } x r' ↔ t.Open x r' ∧ cut < x := by
  simp only [Open, get?_covered held same]
  constructor
  · rintro ⟨found, unfinished⟩
    split at found
    · next later =>
      obtain ⟨r'', found', rfl⟩ := Option.map_eq_some_iff.1 found
      by_cases here : x = cut
      · rw [if_pos here] at unfinished
        cases unfinished
      · rw [if_neg here] at unfinished ⊢
        exact ⟨⟨found', unfinished⟩, Nat.lt_of_le_of_ne later (Ne.symm here)⟩
    · cases found
  · rintro ⟨⟨found, unfinished⟩, later⟩
    rw [if_pos (Nat.le_of_lt later), found, Option.map_some, if_neg (Nat.ne_of_gt later)]
    exact ⟨rfl, unfinished⟩

/-- Dropping what is older than a complete full marker leaves those commands awaited that are younger. -/
theorem awaits_covered {cut : EventId} {records : Table EventId EventRecord} (older : t.Older)
    (held : t.records.get? cut = some r)
    (same : records = (t.records.restrict fun id => cut ≤ id).insert cut
      { r with complete := true, deps := [] }) :
    Awaits { t with records, retiredTo := cut, lastFull := none } x c ↔ t.Awaits x c ∧ cut < c := by
  have opened {x : EventId} {r' : EventRecord} :
      Open { t with records, retiredTo := cut, lastFull := none } x r' ↔ t.Open x r' ∧ cut < x :=
    open_covered held same
  constructor
  · rintro ⟨leads, r', unfinished, command⟩
    obtain ⟨unfinished, later⟩ := opened.1 unfinished
    exact ⟨⟨leads.mono fun _ _ unfinished => (opened.1 unfinished).1, r', unfinished, command⟩, later⟩
  · rintro ⟨⟨leads, r', unfinished, command⟩, later⟩
    refine ⟨?_, r', opened.2 ⟨unfinished, later⟩, command⟩
    -- every event on the way is younger than the command
    induction leads with
    | self => exact .self _
    | @through id w c r'' pending waits rest ih =>
      have young := Nat.lt_of_lt_of_le later (Leads.le older (.through pending waits rest))
      exact .through (opened.2 ⟨pending, young⟩) waits (ih later unfinished)

/-! ### A wait -/

section

variable (tidy : t.Tidy fulls) (behind : ∀ x, x ∈ order ↔ t.Behind e x)
  (retired : (order.foldl finish t).retireCovered = .ok t')
include tidy behind

/-- Before anything is dropped, an event is complete if the commands that it awaited are finished. -/
theorem isComplete_finishAll (known : t.Knows x) :
    (order.foldl finish t).isComplete x = .ok true ↔ ∀ c, t.Awaits x c → c ∈ order := by
  have finished := tidy.sound.finishAll order
  rw [finished.sound.isComplete_iff (finished.knows x known)]
  refine forall_congr' fun c => ?_
  rw [awaits_finishAll behind, not_and, not_not]

include retired

/-- If the latest full marker is complete then, the events from before it are dropped. -/
theorem dropped_of_finished {cut : EventId} (full : t.lastFull = some cut)
    (complete : ∀ c, t.Awaits cut c → c ∈ order) : ∀ x < cut, t'.records.get? x = none := by
  have known := tidy.sound.knows_within (tidy.sound.lastFull cut full)
  have judged := (isComplete_finishAll tidy behind known).2 complete
  exact ((tidy.finishAll order).retire_complete (tidy.head_eq full) judged retired).1

/-- A wait answers for other events as it should if and only if no unfinished command is forgotten. -/
theorem answers_iff_not_forgets :
    (∀ x, t.Knows x → (t'.isComplete x = .ok true ↔ ∀ c, t.Awaits x c → c ∈ order)) ↔ ¬ t.Forgets order := by
  have finished := tidy.finishAll order
  have tidy' := finished.retires retired
  have knows (x : EventId) (known : t.Knows x) : t'.Knows x := by
    obtain ⟨_, ran, later⟩ := finished.sound.retireCovered_ok
    cases retired.symm.trans ran
    exact later.knows x ((tidy.sound.finishAll order).knows x known)
  constructor
  · rintro right ⟨cut, full, complete, c, before, awaits, other⟩
    obtain ⟨r, held, _⟩ := awaits.2
    have known := tidy.sound.knows_within (tidy.sound.range c r held.1)
    have gone := dropped_of_finished tidy behind retired full complete c before
    have answer := isComplete_of_done (tidy'.sound.valid (knows c known)) (done_of_dropped gone)
    exact other ((right c known).1 answer c awaits)
  · intro kept x known
    cases finished.sound.retires retired with
    | idle | early => exact isComplete_finishAll tidy behind known
    | @covered cut r records full complete held same =>
      have latest : t.lastFull = some cut := by
        obtain ⟨records, same, _⟩ := finishAll_eq t order
        rw [same] at full
        exact full
      have known' := tidy.sound.knows_within (tidy.sound.lastFull cut latest)
      have complete := (isComplete_finishAll tidy behind known').1 complete
      rw [tidy'.sound.isComplete_iff (knows x known)]
      refine forall_congr' fun c => ?_
      rw [awaits_covered finished.ordered held same, awaits_finishAll behind, not_and, and_imp, Nat.not_lt]
      refine ⟨fun below awaits => ?_, fun all awaits other => absurd (all awaits) other⟩
      by_contra other
      refine kept ⟨cut, latest, complete, c, ?_, ⟨.self c, awaits.2⟩, other⟩
      refine Nat.lt_of_le_of_ne (below awaits other) ?_
      rintro rfl
      obtain ⟨_, r', held', command⟩ := awaits
      rw [tidy.cut c r' latest held'.1] at command
      cases command

end

/-- A wait forgets no command as long as no marker was completed by name before its commands were finished. -/
theorem not_forgets_of_observed (observed : Observed t h) (tidy : t.Tidy fulls) (known : t.Knows e)
    (found : t.unfinished e = .ok order) (behind : ∀ x, x ∈ order ↔ t.Behind e x)
    (retired : (order.foldl finish t).retireCovered = .ok t') : ¬ t.Forgets order := by
  have follows := follows_of_observed observed
  have issued : h.Issued e := ⟨follows.retiredFrom ▸ known.1, follows.nextId ▸ known.2⟩
  rintro ⟨cut, full, complete, c, before, ⟨_, r, unfinished, command⟩, other⟩
  have gone := dropped_of_finished tidy behind retired full complete c before
  obtain ⟨_, entry, known', recorded⟩ := follows.records c r unfinished.1
  rw [recorded.command] at command
  -- The history of the wait has the command finished, as it is dropped.
  have after : t'.Follows (h.finish (h.Reached e)) := by
    have ran : t.drain e = .ok t' := by rw [drain, found]; exact retired
    have answers := answers_drain follows e
    simp only [EventRequest.onTable, EventRequest.onHistory, EventHistory.drain, EventHistory.check,
      if_pos issued, ran] at answers
    cases answers with
    | given _ follows => exact follows
  have finished := (EventHistory.complete_command (h := h.finish (h.Reached e)) known' command).1
    (after.complete_of_done (EventHistory.issued_of_known (h := h.finish (h.Reached e)) known')
      (done_of_dropped gone))
  rcases finished with finished | reached
  · have complete := (finished_iff follows unfinished.1 known' command).2 finished
    rw [unfinished.2] at complete
    cases complete
  · have searched := searched_from tidy.sound.closed (tidy.sound.valid known) fun _ => false
    rcases ran : t.explore (fun _ => false) [e] [] with _ | events <;> rw [EventTable.unfinished, ran] at found <;>
      cases found
    obtain ⟨order, rfl, _⟩ := visits_explore ran
    rw [ran] at searched
    cases searched with
    | exhausted _ _ visited explored _ =>
      have start := (visited e (List.mem_singleton_self e)).imp_left (follows.complete_of_done issued)
      rcases reached_found follows explored reached start with complete | inside
      · exact follows.pending_of_open unfinished (recorded.command.trans command) complete
      · exact other inside

/-- A wait for a known event always succeeds. It completes the unfinished events behind that event, each once,
and then drops what the latest full marker covers. Dependencies are completed first if and only if no wait
list among theirs is tangled, and for every event it is complete then exactly if the commands that it awaited
were among them, if and only if no command is forgotten. None is, as long as no marker is completed by name
before its commands are finished. -/
theorem wait_completes (grown : Grown t fulls) (known : t.Knows e) :
    ∃ order t', t.unfinished e = .ok order ∧ t.drain e = .ok t' ∧
      (order.foldl finish t).retireCovered = .ok t' ∧
      order.Nodup ∧ (∀ x, x ∈ order ↔ t.Behind e x) ∧
      (t.InOrder [] order ↔ ∀ x r, t.Behind e x → t.Open x r → ¬ t.Tangled r.deps) ∧
      ((∀ x, t.Knows x → (t'.isComplete x = .ok true ↔ ∀ c, t.Awaits x c → c ∈ order)) ↔ ¬ t.Forgets order) ∧
      ∀ h, Observed t h → ¬ t.Forgets order := by
  have tidy := tidy_of_grown grown
  obtain ⟨t', ran, _⟩ := tidy.sound.drain_ok known
  obtain ⟨order, found, retired⟩ := drain_eq ran
  obtain ⟨once, behind, inOrder⟩ := unfinished_order tidy.ordered found
  exact ⟨order, t', found, ran, retired, once, behind, inOrder, answers_iff_not_forgets tidy behind retired,
    fun h observed => not_forgets_of_observed observed tidy known found behind retired⟩

/-- A table of deferred commands: a write, a full marker that is completed by name, and then two writes that
both wait for a third one, with a marker over the two. -/
def shared : EventTable :=
  EventRequest.tableAfter [.record .write write_ne_marker [], .marker [], .complete 2,
    .record .write write_ne_marker [], .record .write write_ne_marker [3], .record .write write_ne_marker [3],
    .marker [4, 5]]

private theorem grown_shared : ∃ fulls, Grown shared fulls := by
  have first := Grown.step (.step (.step (.start true) (.record .write write_ne_marker [])) (.marker [])) (.complete 2)
  have third := first.step (.record .write write_ne_marker [])
  have waiting := (third.step (.record .write write_ne_marker [3])).step (.record .write write_ne_marker [3])
  exact ⟨_, waiting.step (.marker [4, 5])⟩

/-- The wait for the marker comes to the one write before the third that it waits for. -/
theorem shared_disorder : ¬ shared.InOrder [] [4, 3, 5, 6] := by
  intro inOrder
  have first : shared.Open 4 ⟨.write, false, [3]⟩ := ⟨by cbv, rfl⟩
  have third : shared.Open 3 ⟨.write, false, []⟩ := ⟨by cbv, rfl⟩
  rcases inOrder.1 _ first 3 (by simp) with settled | before
  · exact settled _ third
  · cases before

/-- A wait for the marker completes the four events behind it, in an order that is not right: a wait list is
tangled. -/
theorem shared_waited : ∃ order t', shared.unfinished 6 = .ok order ∧ shared.drain 6 = .ok t' ∧
    order = [4, 3, 5, 6] ∧ (∀ x, x ∈ order ↔ shared.Behind 6 x) ∧
    ∃ x r, shared.Behind 6 x ∧ shared.Open x r ∧ shared.Tangled r.deps := by
  obtain ⟨fulls, grown⟩ := grown_shared
  obtain ⟨order, t', found, ran, _, _, behind, ordered, _⟩ := wait_completes grown (e := 6) (by cbv)
  have same : shared.unfinished 6 = .ok [4, 3, 5, 6] := by cbv
  obtain rfl : order = [4, 3, 5, 6] := Except.ok.inj (found.symm.trans same)
  refine ⟨_, t', found, ran, rfl, behind, Classical.byContradiction fun untangled => ?_⟩
  exact shared_disorder (ordered.2 fun x r pending unfinished tangled => untangled ⟨x, r, pending, unfinished, tangled⟩)

/-- The very first write is complete after that wait as well, and it is not behind that marker. -/
theorem not_always_waited :
    (¬ ∀ t fulls e order, Grown t fulls → t.Knows e → t.unfinished e = .ok order → t.InOrder [] order) ∧
      ¬ ∀ t fulls e order t', Grown t fulls → t.Knows e → t.unfinished e = .ok order → t.drain e = .ok t' →
        ∀ x, t.Knows x → t'.isComplete x = .ok true → ∀ c, t.Awaits x c → c ∈ order := by
  obtain ⟨fulls, grown⟩ := grown_shared
  have known : shared.Knows 6 := by cbv
  have found : shared.unfinished 6 = .ok [4, 3, 5, 6] := by cbv
  constructor
  · intro inOrder
    exact shared_disorder (inOrder shared fulls 6 _ grown known found)
  · intro right
    obtain ⟨t', ran, complete⟩ : ∃ t', shared.drain 6 = .ok t' ∧ t'.isComplete 1 = .ok true :=
      ⟨_, by cbv, by cbv⟩
    have first : shared.Open 1 ⟨.write, false, []⟩ := ⟨by cbv, rfl⟩
    have among := right shared fulls 6 _ t' grown known found ran 1 (by cbv) complete 1 ⟨.self 1, _, first, rfl⟩
    simp at among

end Offload.EventTable
