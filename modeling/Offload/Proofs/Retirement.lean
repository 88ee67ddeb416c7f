import Offload.Proofs.Completion
import Offload.Proofs.EventHandles

/-! When a table of events drops what it holds. It remembers the latest full marker only, and drops the
events before that one once it is complete. A wait for an earlier full marker completes everything before
that marker, and yet it drops nothing until the latest one is complete as well. -/
namespace Offload

/-- The full markers after one more request, the latest first. A clear forgets them. -/
def EventRequest.fulls (t : EventTable) (earlier : List EventId) : EventRequest → List EventId
  | marker [] =>
    match t.marker [] with
    | .ok ((id, _), _) => id :: earlier
    | .error _ => earlier
  | clear => []
  | _ => earlier

namespace EventTable

variable {t t' : EventTable} {id cut latest m : EventId} {r : EventRecord} {kind : EventKind}
  {ids wait deps fulls : List EventId}

/-- What a table can become, whatever it is asked for, with the full markers that were placed since it was
last cleared, the latest first. -/
inductive Grown : EventTable → List EventId → Prop where
  | start (deferred : Bool) : Grown { deferred } []
  | step {t : EventTable} {fulls : List EventId} (grown : Grown t fulls) (request : EventRequest) :
      Grown (settled t (request.onTable t)) (request.fulls t fulls)

/-! ### What a request comes to -/

private theorem record_eq (ran : t.record kind wait = .ok (id, t')) :
    t.checkAll wait = .ok () ∧ id = t.nextId ∧
      t' = { t with
        records := t.records.insert t.nextId ⟨kind, !t.deferred, wait⟩
        nextId := t.nextId + 1
        frontier := t.frontier ++ [t.nextId] } := by
  rcases checked : t.checkAll wait with e | _
  · rw [record, checked] at ran
    cases ran
  · rw [record, checked] at ran
    cases ran
    exact ⟨rfl, rfl, rfl⟩

private theorem marker_full_eq (ran : t.marker [] = .ok ((id, deps), t')) :
    id = t.nextId ∧ t.checkAll t.frontier = .ok () ∧
      ∃ complete, t.allComplete t.frontier = .ok complete ∧
        retireCovered { t with
          records := t.records.insert t.nextId ⟨.marker, complete, t.frontier⟩
          nextId := t.nextId + 1
          frontier := [t.nextId]
          lastFull := some t.nextId } = .ok t' := by
  simp only [marker, List.isEmpty_nil, if_true, bind, Except.bind] at ran
  rcases checked : t.checkAll t.frontier with e | _ <;> rw [checked] at ran
  · cases ran
  rcases judged : t.allComplete t.frontier with e | complete <;> rw [judged] at ran
  · cases ran
  dsimp only at ran
  split at ran
  · cases ran
  · next retired =>
    cases ran
    exact ⟨rfl, rfl, complete, rfl, retired⟩

private theorem marker_partial_eq {w : EventId} {rest : List EventId}
    (ran : t.marker (w :: rest) = .ok ((id, deps), t')) :
    t.checkAll (w :: rest) = .ok () ∧
      ∃ complete, t.allComplete (w :: rest) = .ok complete ∧
        t' = { t with
          records := t.records.insert t.nextId ⟨.marker, complete, w :: rest⟩
          nextId := t.nextId + 1
          frontier := t.frontier ++ [t.nextId] } := by
  simp only [marker, List.isEmpty_cons, if_false, Bool.false_eq_true, bind, Except.bind] at ran
  rcases checked : t.checkAll (w :: rest) with e | _ <;> rw [checked] at ran
  · cases ran
  rcases judged : t.allComplete (w :: rest) with e | complete <;> rw [judged] at ran
  · cases ran
  cases ran
  exact ⟨rfl, complete, rfl, rfl⟩

/-- To drain up to an event is to finish what it waits for and to retire what is covered. -/
theorem drain_eq (ran : t.drain id = .ok t') :
    ∃ events, t.unfinished id = .ok events ∧ (events.foldl finish t).retireCovered = .ok t' := by
  rcases found : t.unfinished id with e | events
  · rw [drain, found] at ran
    cases ran
  · rw [drain, found] at ran
    exact ⟨events, rfl, ran⟩

private theorem complete_eq (ran : t.complete id = .ok t') : t' = [id].foldl finish t := by
  rcases looked : t.lookup id with e | found
  · rw [complete, looked] at ran
    cases ran
  · rw [complete, looked] at ran
    cases ran
    rfl

/-- What dropping comes to: there is no full marker to judge by, or it is not complete yet, or everything
before it goes and it is settled for good. -/
inductive Retires (t : EventTable) : EventTable → Prop where
  | idle (absent : t.lastFull = none) : Retires t t
  | early {cut : EventId} (latest : t.lastFull = some cut) (pending : t.isComplete cut = .ok false) :
      Retires t t
  | covered {cut : EventId} {r : EventRecord} {records : Table EventId EventRecord}
      (latest : t.lastFull = some cut) (complete : t.isComplete cut = .ok true)
      (held : t.records.get? cut = some r)
      (same : records = (t.records.restrict fun id => cut ≤ id).insert cut
        { r with complete := true, deps := [] }) :
      Retires t { t with records, retiredTo := cut, lastFull := none }

/-- What a sound table drops by itself is covered by a complete marker. -/
theorem Sound.retires (sound : t.Sound) (ran : t.retireCovered = .ok t') : t.Retires t' := by
  unfold retireCovered at ran
  rcases latest : t.lastFull with _ | cut <;> rw [latest] at ran
  · cases ran
    exact .idle latest
  obtain ⟨later, earlier⟩ := sound.lastFull cut latest
  obtain ⟨complete, judged⟩ := sound.isComplete_ok (sound.knows_within ⟨later, earlier⟩)
  simp only [judged, bind, Except.bind] at ran
  cases complete with
  | false =>
    cases ran
    exact .early latest judged
  | true =>
    obtain ⟨r, held⟩ := sound.held cut later earlier
    have kept : (t.records.restrict fun id => cut ≤ id).get? cut = some r := by
      rw [Table.get?_restrict, if_pos (decide_eq_true (Nat.le_refl cut)), held]
    simp only [if_pos, kept] at ran
    cases ran
    exact .covered latest judged held rfl

/-- Retirement numbers no event and keeps the mode of the table. -/
theorem Retires.same (retires : t.Retires t') : t'.nextId = t.nextId ∧ t'.deferred = t.deferred := by
  cases retires <;> exact ⟨rfl, rfl⟩

/-- A record of the events that are kept. -/
theorem get?_covered {records : Table EventId EventRecord} (held : t.records.get? cut = some r)
    (same : records = (t.records.restrict fun id => cut ≤ id).insert cut
      { r with complete := true, deps := [] }) (id : EventId) :
    records.get? id = if cut ≤ id then (t.records.get? id).map fun r =>
      if id = cut then { r with complete := true, deps := [] } else r else none := by
  rw [same, Table.get?_insert, Table.get?_restrict]
  by_cases here : cut = id
  · subst here
    simp [held]
  · simp [here, Ne.symm here]

/-! ### Complete events -/

theorem isComplete_of_done (valid : t.Valid id) (done : t.Done id) : t.isComplete id = .ok true := by
  rw [isComplete, explore_done valid (.inl done), explore]
  rfl

private theorem done_finishAll (done : t.Done id ∨ id ∈ ids) : (ids.foldl finish t).Done id := by
  obtain ⟨records, same, marked⟩ := finishAll_eq t ids
  rw [same]
  rintro r ⟨held, unfinished⟩
  rw [marked] at held
  obtain ⟨r', held', rfl⟩ := Option.map_eq_some_iff.1 held
  by_cases member : id ∈ ids
  · rw [if_pos member] at unfinished
    cases unfinished
  · rw [if_neg member] at unfinished
    exact (done.resolve_right member) r' ⟨held', unfinished⟩

/-- A wait completes the event that is waited for. -/
theorem Sound.done_unfinished (sound : t.Sound) (known : t.Knows id)
    (found : t.unfinished id = .ok ids) : (ids.foldl finish t).Done id := by
  have searched := searched_from sound.closed (sound.valid known) fun _ => false
  unfold unfinished at found
  rcases ran : t.explore (fun _ => false) [id] [] with e | _ | events <;> rw [ran] at searched found
  · cases searched
  · cases searched with
    | stopped _ _ _ stop => cases stop
  · cases found
    cases searched with
    | exhausted _ _ visited _ _ => exact done_finishAll (visited id (List.mem_singleton_self id))

private theorem ascending_finishAll (ascending : t.records.Ascending) (ids : List EventId) :
    (ids.foldl finish t).records.Ascending := by
  induction ids generalizing t with
  | nil => exact ascending
  | cons id rest ih =>
    refine ih ?_
    unfold finish
    split
    · exact ascending.insert _ _
    · exact ascending

/-! ### What holds of every table -/

/-- Events wait for older ones, on a device that completes at once all are complete, and the table goes by
the latest full marker: it waits to drop what is older, or it has done so. -/
structure Tidy (t : EventTable) (fulls : List EventId) : Prop where
  sound : t.Sound
  ascending : t.records.Ascending
  older : ∀ id r, t.records.get? id = some r → ∀ w ∈ r.deps, w < id
  immediate : t.deferred = false → ∀ id r, t.records.get? id = some r → r.complete = true
  cut : ∀ id r, t.lastFull = some id → t.records.get? id = some r → r.isCommand = false
  latest : t.lastFull = fulls.head? ∨ t.lastFull = none ∧ fulls.head? = some t.retiredTo ∧
    t.Done t.retiredTo
  known : ∀ m ∈ fulls, t.Knows m
  newest : ∀ m ∈ fulls, ∀ latest, fulls.head? = some latest → m ≤ latest

namespace Tidy

private theorem isComplete_immediate (tidy : t.Tidy fulls) (immediate : t.deferred = false) (known : t.Knows id) :
    t.isComplete id = .ok true := by
  refine isComplete_of_done (tidy.sound.valid known) ?_
  rintro r ⟨held, unfinished⟩
  rw [tidy.immediate immediate id r held] at unfinished
  cases unfinished

private theorem allComplete_immediate (tidy : t.Tidy fulls) (immediate : t.deferred = false)
    (known : ∀ id ∈ ids, t.Knows id) : t.allComplete ids = .ok true := by
  induction ids with
  | nil => rfl
  | cons id rest ih =>
    rw [List.forall_mem_cons] at known
    simp only [allComplete, tidy.isComplete_immediate immediate known.1, ih known.2, bind, Except.bind,
      pure, Except.pure, Bool.and_self]

/-- Placed among the known ones, a full marker is the latest of them. -/
theorem latest_known (tidy : t.Tidy fulls) (member : m ∈ fulls) :
    ∃ latest, fulls.head? = some latest ∧ t.Knows latest ∧ m ≤ latest := by
  rcases fulls with _ | ⟨latest, earlier⟩
  · cases member
  · exact ⟨latest, rfl, tidy.known latest (List.mem_cons_self ..), tidy.newest m member latest rfl⟩

/-- The full marker that the table knows of is the latest one. -/
theorem head_eq (tidy : t.Tidy fulls) (full : t.lastFull = some cut) : fulls.head? = some cut := by
  rcases tidy.latest with same | ⟨absent, _⟩
  · exact same.symm.trans full
  · rw [full] at absent
    cases absent

/-! #### Changes -/

/-- Finished events leave a table tidy. -/
theorem finishAll (tidy : t.Tidy fulls) (ids : List EventId) : (ids.foldl finish t).Tidy fulls := by
  have later := tidy.sound.finishAll ids
  have ascending := ascending_finishAll tidy.ascending ids
  have done {id : EventId} (done : t.Done id) : (ids.foldl finish t).Done id := done_finishAll (.inl done)
  obtain ⟨records, same, marked⟩ := finishAll_eq t ids
  have origin {id : EventId} {r : EventRecord} (held : records.get? id = some r) :
      ∃ r', t.records.get? id = some r' ∧ r.deps = r'.deps ∧ r.kind = r'.kind ∧
        (r'.complete = true → r.complete = true) := by
    rw [marked] at held
    obtain ⟨r', held', rfl⟩ := Option.map_eq_some_iff.1 held
    exact ⟨r', held', by split <;> simp⟩
  rw [same] at later ascending done ⊢
  refine ⟨later.sound, ascending, fun id r held w waits => ?_, fun immediate id r held => ?_,
    fun id r latest held => ?_, tidy.latest.imp_right fun ⟨absent, head, settled⟩ => ⟨absent, head, done settled⟩,
    tidy.known, tidy.newest⟩
  · obtain ⟨r', held', deps, _⟩ := origin held
    exact tidy.older id r' held' w (deps ▸ waits)
  · obtain ⟨r', held', _, _, complete⟩ := origin held
    exact complete (tidy.immediate immediate id r' held')
  · obtain ⟨r', held', _, kind, _⟩ := origin held
    rw [EventRecord.isCommand, kind]
    exact tidy.cut id r' latest held'

/-- Retired events leave a table tidy. -/
theorem retires (tidy : t.Tidy fulls) (ran : t.retireCovered = .ok t') : t'.Tidy fulls := by
  obtain ⟨_, ran', later⟩ := tidy.sound.retireCovered_ok
  cases ran.symm.trans ran'
  cases tidy.sound.retires ran with
  | idle | early => exact tidy
  | @covered cut r records latest complete held same =>
    have found := get?_covered held same
    have origin {id : EventId} {r : EventRecord} (held : records.get? id = some r) :
        ∃ r', t.records.get? id = some r' ∧ (∀ w ∈ r.deps, w ∈ r'.deps) ∧
          (r'.complete = true → r.complete = true) := by
      rw [found] at held
      split at held
      · obtain ⟨r', held', rfl⟩ := Option.map_eq_some_iff.1 held
        exact ⟨r', held', by split <;> simp⟩
      · cases held
    refine ⟨later.sound, same ▸ (tidy.ascending.restrict _).insert _ _, fun id r held w waits => ?_,
      fun immediate id r held => ?_, by simp,
      .inr ⟨rfl, tidy.head_eq latest, ?_⟩, tidy.known, tidy.newest⟩
    · obtain ⟨r', held', deps, _⟩ := origin held
      exact tidy.older id r' held' w (deps w waits)
    · obtain ⟨r', held', _, complete⟩ := origin held
      exact complete (tidy.immediate immediate id r' held')
    · rintro r' ⟨held', unfinished⟩
      have settled := found cut
      simp only [Nat.le_refl, if_true, held, Option.map_some] at settled
      cases held'.symm.trans settled
      cases unfinished

/-- One more event, over events that are known. If it is a full marker it is the latest one. -/
theorem add (tidy : t.Tidy fulls) (frontier : List EventId) (full : Bool)
    (deps : ∀ w ∈ r.deps, t.Knows w) (covers : ∀ id ∈ frontier, t.Knows id ∨ id = t.nextId)
    (immediate : t.deferred = false → r.complete = true) (marker : full = true → r.isCommand = false) :
    Tidy { t with
      records := t.records.insert t.nextId r
      nextId := t.nextId + 1
      frontier
      lastFull := if full then some t.nextId else t.lastFull }
      (if full then t.nextId :: fulls else fulls) := by
  have later := tidy.sound.add frontier (if full then some t.nextId else t.lastFull) deps covers
    (by cases full <;> simp)
  refine
    { sound := later.sound, ascending := tidy.ascending.insert _ _, older := ?older, immediate := ?immediate
      cut := ?cut, latest := ?latest, known := ?known, newest := ?newest }
  case older =>
    intro id r' held w waits
    rcases Table.get?_insert_cases held with ⟨rfl, rfl⟩ | ⟨_, old⟩
    · exact (deps w waits).2
    · exact tidy.older id r' old w waits
  case immediate =>
    intro atOnce id r' held
    rcases Table.get?_insert_cases held with ⟨_, rfl⟩ | ⟨_, old⟩
    · exact immediate atOnce
    · exact tidy.immediate atOnce id r' old
  case cut =>
    intro id r' latest held
    rcases Table.get?_insert_cases held with ⟨rfl, rfl⟩ | ⟨differ, old⟩
    · cases full with
      | true => exact marker rfl
      | false => exact absurd (tidy.sound.lastFull _ latest).2 (Nat.lt_irrefl _)
    · cases full with
      | true => exact absurd (Option.some.inj latest).symm differ
      | false => exact tidy.cut id r' latest old
  case latest =>
    cases full with
    | true => exact .inl rfl
    | false =>
      refine tidy.latest.imp_right fun earlier => ?_
      obtain ⟨absent, head, settled⟩ := earlier
      refine ⟨absent, head, ?_⟩
      rintro r' ⟨held, unfinished⟩
      have known := tidy.known _ (List.mem_of_mem_head? head)
      rw [Table.get?_insert, if_neg (Nat.ne_of_gt known.2)] at held
      exact settled r' ⟨held, unfinished⟩
  case known =>
    intro m member
    cases full with
    | false => exact later.knows m (tidy.known m member)
    | true =>
      rcases List.mem_cons.1 member with rfl | old
      · exact tidy.sound.knows_next rfl rfl
      · exact later.knows m (tidy.known m old)
  case newest =>
    intro m member latest head
    cases full with
    | false => exact tidy.newest m member latest head
    | true =>
      cases head
      rcases List.mem_cons.1 member with rfl | old
      · exact Nat.le_refl _
      · exact Nat.le_of_lt (tidy.known m old).2

end Tidy

/-- A new table is tidy. -/
theorem tidy_start (deferred : Bool) : Tidy { deferred } [] :=
  ⟨sound_start deferred, List.Pairwise.nil, nofun, fun _ => nofun, nofun, .inl rfl, nofun, nofun⟩

theorem tidy_clear (t : EventTable) : t.clear.Tidy [] :=
  ⟨sound_clear t, List.Pairwise.nil, nofun, fun _ => nofun, nofun, .inl rfl, nofun, nofun⟩

/-! #### Requests -/

namespace Tidy

/-- A recorded event leaves a table tidy. -/
theorem record (tidy : t.Tidy fulls) (ran : t.record kind wait = .ok (id, t')) : t'.Tidy fulls := by
  obtain ⟨checked, _, rfl⟩ := record_eq ran
  exact tidy.add (r := ⟨kind, !t.deferred, wait⟩) _ false (tidy.sound.checkAll_ok_iff.1 checked)
    tidy.sound.frontier_append (fun immediate => by simp [immediate]) nofun

/-- A full marker is placed as the latest one before anything is dropped. -/
theorem marker_placed (tidy : t.Tidy fulls) (ran : t.marker [] = .ok ((id, deps), t')) :
    ∃ placed : EventTable, placed.Tidy (id :: fulls) ∧ placed.retireCovered = .ok t' ∧
      placed.deferred = t.deferred ∧ placed.nextId = id + 1 := by
  obtain ⟨rfl, _, complete, judged, retired⟩ := marker_full_eq ran
  refine ⟨_, tidy.add (r := ⟨.marker, complete, t.frontier⟩) [t.nextId] true tidy.sound.frontier
    (fun id member => .inr (List.mem_singleton.1 member)) (fun immediate => ?_) fun _ => rfl, retired, rfl, rfl⟩
  exact Except.ok.inj (judged.symm.trans (tidy.allComplete_immediate immediate tidy.sound.frontier))

/-- A full marker is the latest of all full markers from then on. -/
theorem marker_full (tidy : t.Tidy fulls) (ran : t.marker [] = .ok ((id, deps), t')) :
    t'.Tidy (id :: fulls) := by
  obtain ⟨placed, placedTidy, retired, _⟩ := tidy.marker_placed ran
  exact placedTidy.retires retired

/-- A marker of some events does not count among the full ones. -/
theorem marker_partial {w : EventId} {rest : List EventId} (tidy : t.Tidy fulls)
    (ran : t.marker (w :: rest) = .ok ((id, deps), t')) : t'.Tidy fulls := by
  obtain ⟨checked, complete, judged, rfl⟩ := marker_partial_eq ran
  have known := tidy.sound.checkAll_ok_iff.1 checked
  refine tidy.add (r := ⟨.marker, complete, w :: rest⟩) _ false known tidy.sound.frontier_append
    (fun immediate => ?_) nofun
  exact Except.ok.inj (judged.symm.trans (tidy.allComplete_immediate immediate known))

/-- A table is tidy behind a wait. -/
theorem drain (tidy : t.Tidy fulls) (ran : t.drain id = .ok t') : t'.Tidy fulls := by
  obtain ⟨events, _, retired⟩ := drain_eq ran
  exact (tidy.finishAll events).retires retired

/-- A table is tidy behind a completion. -/
theorem complete (tidy : t.Tidy fulls) (ran : t.complete id = .ok t') : t'.Tidy fulls := by
  rw [complete_eq ran]
  exact tidy.finishAll [id]

private theorem request (tidy : t.Tidy fulls) (request : EventRequest) :
    (settled t (request.onTable t)).Tidy (request.fulls t fulls) := by
  cases request with
  | record kind command wait =>
    rcases ran : t.record kind wait with e | ⟨id, t'⟩ <;> simp only [EventRequest.onTable, ran]
    · exact tidy
    · exact tidy.record ran
  | marker wait =>
    rcases ran : t.marker wait with e | ⟨⟨id, deps⟩, t'⟩ <;> rcases wait with _ | ⟨w, rest⟩ <;>
      simp only [EventRequest.onTable, EventRequest.fulls, ran]
    · exact tidy
    · exact tidy
    · exact tidy.marker_full ran
    · exact tidy.marker_partial ran
  | drain id =>
    rcases ran : t.drain id with e | t' <;> simp only [EventRequest.onTable, ran]
    · exact tidy
    · exact tidy.drain ran
  | complete id =>
    rcases ran : t.complete id with e | t' <;> simp only [EventRequest.onTable, ran]
    · exact tidy
    · exact tidy.complete ran
  | clear => exact tidy_clear t

end Tidy

/-- Whatever a table has grown through, it is tidy. -/
theorem tidy_of_grown (grown : Grown t fulls) : t.Tidy fulls := by
  induction grown with
  | start deferred => exact tidy_start deferred
  | step _ request ih => exact ih.request request

/-! ### The latest full marker -/

namespace Tidy

/-- Once the latest full marker is settled nothing from before it is held, and it reads complete. -/
theorem settled (tidy : t.Tidy fulls) (head : fulls.head? = some latest) (absent : t.lastFull = none) :
    (∀ id < latest, t.records.get? id = none) ∧ t.isComplete latest = .ok true := by
  rcases tidy.latest with full | ⟨_, head', done⟩
  · rw [absent, head] at full
    cases full
  · cases head.symm.trans head'
    have known := tidy.known _ (List.mem_of_mem_head? head)
    refine ⟨fun id before => ?_, isComplete_of_done (tidy.sound.valid known) done⟩
    rcases held : t.records.get? id with _ | r
    · rfl
    · exact absurd before (Nat.not_lt.2 (tidy.sound.range id r held).1)

/-- Once the latest full marker is complete, nothing older is left, and the marker stays complete. -/
theorem retire_complete (tidy : t.Tidy fulls) (head : fulls.head? = some latest)
    (complete : t.isComplete latest = .ok true) (ran : t.retireCovered = .ok t') :
    (∀ id < latest, t'.records.get? id = none) ∧ t'.isComplete latest = .ok true := by
  have tidy' := tidy.retires ran
  cases tidy.sound.retires ran with
  | idle absent => exact tidy'.settled head absent
  | covered => exact tidy'.settled head rfl
  | early full pending =>
    cases head.symm.trans (tidy.head_eq full)
    rw [complete] at pending
    cases pending

private theorem retire_pending (tidy : t.Tidy fulls) (head : fulls.head? = some latest)
    (pending : t.isComplete latest = .ok false) (ran : t.retireCovered = .ok t') : t' = t := by
  cases tidy.sound.retires ran with
  | idle | early => rfl
  | covered full complete =>
    cases head.symm.trans (tidy.head_eq full)
    rw [pending] at complete
    cases complete

/-- With nothing held from before the event that was handed out last, one event is held. -/
theorem size_eq_one (tidy : t.Tidy fulls) (head : fulls.head? = some latest) (last : t.nextId = latest + 1)
    (gone : ∀ id < latest, t.records.get? id = none) : t.size = 1 := by
  have below : t.retiredTo ≤ latest := by
    rcases tidy.latest with full | ⟨_, head', _⟩
    · exact (tidy.sound.lastFull latest (full.trans head)).1
    · exact Nat.le_of_eq (Option.some.inj (head'.symm.trans head))
  have only (id : EventId) : (t.records.get? id).isSome ↔ id = latest := by
    refine ⟨fun held => ?_, ?_⟩
    · obtain ⟨r, held⟩ := Option.isSome_iff_exists.1 held
      have before : id < latest + 1 := last ▸ (tidy.sound.range id r held).2
      refine Nat.le_antisymm (Nat.le_of_lt_succ before) (Nat.not_lt.1 fun older => ?_)
      rw [gone id older] at held
      cases held
    · rintro rfl
      obtain ⟨r, held⟩ := tidy.sound.held id below (last ▸ Nat.lt_succ_self _)
      rw [held]
      rfl
  exact tidy.ascending.size_eq_one only

/-- Where commands complete at once, a full marker leaves no other event. -/
theorem size_marker_full (tidy : t.Tidy fulls) (immediate : t.deferred = false)
    (ran : t.marker [] = .ok ((id, deps), t')) : t'.size = 1 := by
  obtain ⟨placed, placedTidy, retired, deferred, next⟩ := tidy.marker_placed ran
  have complete := placedTidy.isComplete_immediate (deferred.trans immediate)
    (placedTidy.known id (List.mem_cons_self ..))
  refine (placedTidy.retires retired).size_eq_one rfl ?_ (placedTidy.retire_complete rfl complete retired).1
  exact (placedTidy.sound.retires retired).same.1.trans next

/-- A wait for the full marker that was placed last leaves no other event. -/
theorem size_drain_latest (tidy : t.Tidy fulls) (head : fulls.head? = some latest) (last : t.nextId = latest + 1)
    (ran : t.drain latest = .ok t') : t'.size = 1 := by
  have known := tidy.known latest (List.mem_of_mem_head? head)
  obtain ⟨events, found, retired⟩ := drain_eq ran
  have finished := tidy.finishAll events
  have complete := isComplete_of_done (finished.sound.valid ((tidy.sound.finishAll events).knows latest known))
    (tidy.sound.done_unfinished known found)
  refine (finished.retires retired).size_eq_one head ?_ (finished.retire_complete head complete retired).1
  obtain ⟨records, same, _⟩ := finishAll_eq t events
  rw [(finished.sound.retires retired).same.1, same]
  exact last

end Tidy

/-- A wait for a full marker always succeeds. It leaves nothing that is older than the marker if nothing was
left before or if the latest full marker is complete then, and only then. So it does if the marker is the
latest one itself, and whenever commands complete at once. -/
theorem wait_retires_iff (grown : Grown t fulls) (placed : m ∈ fulls) :
    ∃ latest t', fulls.head? = some latest ∧ t.drain m = .ok t' ∧
      ((∀ id < m, t'.records.get? id = none) ↔
        (∀ id < m, t.records.get? id = none) ∨ t'.isComplete latest = .ok true) ∧
      (m = latest ∨ t.deferred = false → ∀ id < m, t'.records.get? id = none) := by
  have tidy := tidy_of_grown grown
  have known := tidy.known m placed
  obtain ⟨latest, head, issued, within⟩ := tidy.latest_known placed
  obtain ⟨t', ran, _⟩ := tidy.sound.drain_ok known
  obtain ⟨events, found, retired⟩ := drain_eq ran
  have finished := tidy.finishAll events
  have later := tidy.sound.finishAll events
  obtain ⟨complete, judged⟩ := finished.sound.isComplete_ok (later.knows latest issued)
  refine ⟨latest, t', head, ran, ?_⟩
  cases complete with
  | true =>
    obtain ⟨dropped, complete⟩ := finished.retire_complete head judged retired
    have gone (id : EventId) (before : id < m) := dropped id (Nat.lt_of_lt_of_le before within)
    exact ⟨iff_of_true gone (.inr complete), fun _ => gone⟩
  | false =>
    obtain rfl := finished.retire_pending head judged retired
    refine ⟨?_, ?_⟩
    · -- marks are all that changed, so what is held is what was held
      have held (id : EventId) :
          (events.foldl finish t).records.get? id = none ↔ t.records.get? id = none := by
        obtain ⟨records, same, marked⟩ := finishAll_eq t events
        rw [same, marked, Option.map_eq_none_iff]
      simp only [held, judged]
      simp
    · rintro (rfl | immediate)
      · have complete := isComplete_of_done (finished.sound.valid (later.knows m known))
          (tidy.sound.done_unfinished known found)
        rw [judged] at complete
        cases complete
      · have same : (events.foldl finish t).deferred = t.deferred := by
          obtain ⟨records, same, _⟩ := finishAll_eq t events
          rw [same]
        have complete := finished.isComplete_immediate (same.trans immediate) (later.knows latest issued)
        rw [judged] at complete
        cases complete

theorem write_ne_marker : EventKind.write ≠ .marker := by decide

/-- A table of deferred commands, after two rounds of a command and a full marker. -/
def pipelined : EventTable :=
  EventRequest.tableAfter [.record .write write_ne_marker [], .marker [], .record .write write_ne_marker [], .marker []]

private theorem grown_pipelined : ∃ fulls, Grown pipelined fulls ∧ fulls = [4, 2] :=
  ⟨_, .step (.step (.step (.step (.start true) (.record .write write_ne_marker [])) (.marker []))
    (.record .write write_ne_marker [])) (.marker []), by cbv⟩

/-- A wait for the second marker drops all three events before it. -/
theorem pipelined_retired : ∃ t', pipelined.drain 4 = .ok t' ∧ ∀ id < 4, t'.records.get? id = none := by
  obtain ⟨_, grown, rfl⟩ := grown_pipelined
  obtain ⟨latest, t', head, ran, _, gone⟩ := wait_retires_iff grown (m := 4) (by decide)
  exact ⟨t', ran, gone (.inl (Option.some.inj head))⟩

/-- A wait for the first marker returns with the first command complete, and it is held still. -/
theorem not_always_retired : ¬ ∀ t fulls m t', Grown t fulls → m ∈ fulls → t.drain m = .ok t' →
    ∀ id < m, t'.records.get? id = none := by
  intro retired
  obtain ⟨fulls, grown, rfl⟩ := grown_pipelined
  have ran : ∃ t', pipelined.drain 2 = .ok t' ∧ t'.isComplete 1 = .ok true ∧
      t'.records.get? 1 = some ⟨.write, true, []⟩ := ⟨_, by cbv, by cbv, by cbv⟩
  obtain ⟨t', ran, _, held⟩ := ran
  have gone := retired pipelined [4, 2] 2 t' grown (by decide) ran 1 (by decide)
  rw [held] at gone
  cases gone

end EventTable
end Offload
