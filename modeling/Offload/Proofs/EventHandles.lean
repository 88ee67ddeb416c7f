import Offload.Proofs.EventTable
import Offload.Proofs.Operations

/-! The handles that an event table honours: the ids it has given out since it was last cleared. Of
these the later ones have a record, and the earlier ones were dropped after they completed. Whatever a
table is asked for, that stays so and good handles stay good, and a request that names good handles
only is never refused. -/
namespace Offload.EventTable

variable {t t' : EventTable} {id cut : EventId} {r : EventRecord} {ids wait : List EventId}

/-- The id was given out since the table was last cleared. -/
def Knows (t : EventTable) (id : EventId) : Prop :=
  t.retiredFrom ≤ id ∧ id < t.nextId

instance : Decidable (t.Knows id) := inferInstanceAs (Decidable (_ ∧ _))

/-- There are records from `retiredTo` on, and the table refers to ids only that it knows. -/
structure Sound (t : EventTable) : Prop where
  retired : t.retiredFrom ≤ t.retiredTo
  issued : t.retiredTo ≤ t.nextId
  held : ∀ id, t.retiredTo ≤ id → id < t.nextId → ∃ r, t.records.get? id = some r
  range : ∀ id r, t.records.get? id = some r → t.retiredTo ≤ id ∧ id < t.nextId
  deps : ∀ id r, t.records.get? id = some r → ∀ w ∈ r.deps, t.Knows w
  frontier : ∀ id ∈ t.frontier, t.Knows id
  lastFull : ∀ cut, t.lastFull = some cut → t.retiredTo ≤ cut ∧ cut < t.nextId

/-- A later table, sound as well, that knows what the earlier one knew. -/
structure Later (before after : EventTable) : Prop where
  sound : after.Sound
  knows : ∀ id, before.Knows id → after.Knows id

/-- From a sound table on, the table stays sound and goes on knowing its events. -/
def Steady (before after : EventTable) : Prop :=
  before.Sound → Later before after

instance : Op.Transition Steady where
  refl _ := fun sound => ⟨sound, fun _ known => known⟩
  trans first second := fun sound =>
    have middle := first sound
    have last := second middle.sound
    ⟨last.sound, fun id known => last.knows id (middle.knows id known)⟩

/-- A new table is sound. -/
theorem sound_start (deferred : Bool) : Sound { deferred } :=
  ⟨Nat.le_refl _, Nat.le_refl _, fun _ from_one below => absurd from_one (Nat.not_le.2 below),
    nofun, nofun, nofun, nofun⟩

/-- After a clear nothing is known. -/
theorem sound_clear (t : EventTable) : t.clear.Sound :=
  ⟨Nat.le_refl _, Nat.le_refl _, fun _ later earlier => absurd later (Nat.not_le.2 earlier),
    nofun, nofun, nofun, nofun⟩

/-! ### Looking -/

namespace Sound

/-- What was not dropped is known. -/
theorem knows_within (sound : t.Sound) (within : t.retiredTo ≤ id ∧ id < t.nextId) : t.Knows id :=
  ⟨Nat.le_trans sound.retired within.1, within.2⟩

/-- The known events are those that can be looked up. -/
theorem lookup (sound : t.Sound) (id : EventId) :
    t.lookup id = if t.Knows id then .ok (t.records.get? id) else .error (.invalidEvent id) := by
  have issued := sound.issued
  unfold EventTable.lookup
  rcases found : t.records.get? id with _ | r
  · by_cases known : t.Knows id
    · have dropped : id < t.retiredTo := by
        refine Nat.not_le.1 fun later => ?_
        obtain ⟨r, held⟩ := sound.held id later known.2
        rw [found] at held
        cases held
      simp only [if_pos known, if_pos (And.intro known.1 dropped)]
    · have outside : ¬ (t.retiredFrom ≤ id ∧ id < t.retiredTo) :=
        fun inside => known ⟨inside.1, Nat.lt_of_lt_of_le inside.2 issued⟩
      simp only [if_neg known, if_neg outside]
  · rw [if_pos (sound.knows_within (sound.range id r found))]

theorem valid (sound : t.Sound) (known : t.Knows id) : t.Valid id := by
  rw [Valid, sound.lookup, if_pos known]

/-- What the records wait for is known. -/
theorem closed (sound : t.Sound) : t.Closed :=
  fun id r unfinished w waits => sound.valid (sound.deps id r unfinished.1 w waits)

/-- A check passes if every event is known, and only then. -/
theorem checkAll_ok_iff (sound : t.Sound) : t.checkAll ids = .ok () ↔ ∀ id ∈ ids, t.Knows id := by
  induction ids with
  | nil => simp [checkAll]
  | cons id rest ih =>
    rw [checkAll, sound.lookup, List.forall_mem_cons]
    by_cases known : t.Knows id
    · rw [if_pos known]
      simp only [ih, known, true_and]
    · rw [if_neg known]
      simp [known]

private theorem explore_ok (sound : t.Sound) (known : t.Knows id) (halt : EventRecord → Bool) :
    ∃ events, t.explore halt [id] [] = .ok events := by
  have searched := searched_from sound.closed (sound.valid known) halt
  rcases ran : t.explore halt [id] [] with e | events
  · rw [ran] at searched
    cases searched
  · exact ⟨events, rfl⟩

/-- Of a known event the table can tell whether it is complete. -/
theorem isComplete_ok (sound : t.Sound) (known : t.Knows id) :
    ∃ complete, t.isComplete id = .ok complete := by
  obtain ⟨events, ran⟩ := sound.explore_ok known EventRecord.isCommand
  exact ⟨events.isSome, by rw [isComplete, ran]; rfl⟩

private theorem allComplete_ok (sound : t.Sound) (known : ∀ id ∈ ids, t.Knows id) :
    ∃ complete, t.allComplete ids = .ok complete := by
  induction ids with
  | nil => exact ⟨true, rfl⟩
  | cons id rest ih =>
    rw [List.forall_mem_cons] at known
    obtain ⟨first, ran⟩ := sound.isComplete_ok known.1
    obtain ⟨others, ran'⟩ := ih known.2
    exact ⟨first && others, by simp only [allComplete, ran, ran', bind, Except.bind, pure, Except.pure]⟩

/-- Of a known event the table can tell the times. -/
theorem profile_ok (sound : t.Sound) (known : t.Knows id) : ∃ p, t.profile id = .ok p := by
  obtain ⟨complete, ran⟩ := sound.isComplete_ok known
  exact ⟨_, by rw [profile, ran]; rfl⟩

private theorem unfinished_ok (sound : t.Sound) (known : t.Knows id) :
    ∃ events, t.unfinished id = .ok events := by
  obtain ⟨events, ran⟩ := sound.explore_ok known fun _ => false
  exact ⟨events.getD [], by rw [unfinished, ran]; rfl⟩

/-! ### Changing -/

/-- Completions only touch the marks. -/
theorem finishAll (sound : t.Sound) (ids : List EventId) : Later t (ids.foldl finish t) := by
  obtain ⟨records, same, found⟩ := finishAll_eq t ids
  have origin {id : EventId} {r : EventRecord} (held : records.get? id = some r) :
      ∃ r', t.records.get? id = some r' ∧ r.deps = r'.deps := by
    rw [found] at held
    obtain ⟨r', held', rfl⟩ := Option.map_eq_some_iff.1 held
    exact ⟨r', held', by split <;> rfl⟩
  rw [same]
  refine ⟨⟨sound.retired, sound.issued, ?_, ?_, ?_, sound.frontier, sound.lastFull⟩,
    fun _ known => known⟩
  · intro id later earlier
    obtain ⟨r, held⟩ := sound.held id later earlier
    exact ⟨_, by rw [found, held, Option.map_some]⟩
  · intro id r held
    obtain ⟨r', held', _⟩ := origin held
    exact sound.range id r' held'
  · intro id r held w waits
    obtain ⟨r', held', same⟩ := origin held
    exact sound.deps id r' held' w (same ▸ waits)

/-- Dropping what a complete marker covers always succeeds. -/
theorem retireCovered_ok (sound : t.Sound) :
    ∃ t', t.retireCovered = .ok t' ∧ Later t t' := by
  have same : Later t t := Op.Transition.refl (R := Steady) t sound
  unfold retireCovered
  rcases latest : t.lastFull with _ | cut
  · exact ⟨t, rfl, same⟩
  obtain ⟨later, earlier⟩ := sound.lastFull cut latest
  have known := sound.knows_within ⟨later, earlier⟩
  obtain ⟨complete, ran⟩ := sound.isComplete_ok known
  simp only [ran, bind, Except.bind]
  cases complete with
  | false => exact ⟨t, rfl, same⟩
  | true =>
    obtain ⟨r, held⟩ := sound.held cut later earlier
    have kept : (t.records.restrict fun id => cut ≤ id).get? cut = some r := by
      rw [Table.get?_restrict, if_pos (decide_eq_true (Nat.le_refl cut)), held]
    simp only [if_pos, kept]
    refine ⟨_, rfl, ⟨known.1, Nat.le_of_lt earlier, ?_, ?_, ?_, sound.frontier, ?_⟩,
      fun _ known => known⟩
    · intro id after inside
      simp only [Table.get?_insert, Table.get?_restrict, decide_eq_true_eq, if_pos after]
      split
      · exact ⟨_, rfl⟩
      · exact sound.held id (Nat.le_trans later after) inside
    · intro id r' held'
      simp only [Table.get?_insert, Table.get?_restrict, decide_eq_true_eq] at held'
      split at held'
      · next here => exact here ▸ ⟨Nat.le_refl _, earlier⟩
      · split at held'
        · next after => exact ⟨after, (sound.range id r' held').2⟩
        · cases held'
    · intro id r' held' w waits
      simp only [Table.get?_insert, Table.get?_restrict, decide_eq_true_eq] at held'
      split at held'
      · cases held'
        cases waits
      · split at held'
        · exact sound.deps id r' held' w waits
        · cases held'
    · rintro _ ⟨⟩

/-- One more event, over events that are known. -/
theorem add (sound : t.Sound) (frontier : List EventId) (lastFull : Option EventId)
    (deps : ∀ w ∈ r.deps, t.Knows w) (covers : ∀ id ∈ frontier, t.Knows id ∨ id = t.nextId)
    (full : lastFull = t.lastFull ∨ lastFull = some t.nextId) :
    Later t { t with
      records := t.records.insert t.nextId r, nextId := t.nextId + 1, frontier, lastFull } := by
  have issued := sound.issued
  have grown {id : EventId} (known : t.Knows id) : t.retiredFrom ≤ id ∧ id < t.nextId + 1 :=
    ⟨known.1, Nat.lt_succ_of_lt known.2⟩
  have fresh : t.retiredFrom ≤ t.nextId ∧ t.nextId < t.nextId + 1 :=
    ⟨Nat.le_trans sound.retired issued, Nat.lt_succ_self _⟩
  refine ⟨⟨sound.retired, Nat.le_succ_of_le issued, ?_, ?_, ?_, ?_, ?_⟩, fun _ => grown⟩
  · intro id later earlier
    simp only [Table.get?_insert]
    split
    · exact ⟨r, rfl⟩
    · next differ =>
      exact sound.held id later (Nat.lt_of_le_of_ne (Nat.le_of_lt_succ earlier) (Ne.symm differ))
  · intro id r' held
    simp only [Table.get?_insert] at held
    split at held
    · next here => exact here ▸ ⟨issued, Nat.lt_succ_self _⟩
    · exact ⟨(sound.range id r' held).1, Nat.lt_succ_of_lt (sound.range id r' held).2⟩
  · intro id r' held w waits
    simp only [Table.get?_insert] at held
    split at held
    · cases held
      exact grown (deps w waits)
    · exact grown (sound.deps id r' held w waits)
  · intro id member
    rcases covers id member with known | rfl
    · exact grown known
    · exact fresh
  · intro cut latest
    rcases full with same | new
    · obtain ⟨later, earlier⟩ := sound.lastFull cut (same ▸ latest)
      exact ⟨later, Nat.lt_succ_of_lt earlier⟩
    · cases new.symm.trans latest
      exact ⟨issued, Nat.lt_succ_self _⟩

/-! ### Requests -/

theorem knows_next (sound : t.Sound) (retired : t'.retiredFrom = t.retiredFrom)
    (next : t'.nextId = t.nextId + 1) : t'.Knows t.nextId :=
  ⟨retired ▸ Nat.le_trans sound.retired sound.issued, next ▸ Nat.lt_succ_self _⟩

/-- The frontier takes in the new event. -/
theorem frontier_append (sound : t.Sound) :
    ∀ id ∈ t.frontier ++ [t.nextId], t.Knows id ∨ id = t.nextId := by
  intro id member
  rcases List.mem_append.1 member with old | new
  · exact .inl (sound.frontier id old)
  · exact .inr (List.mem_singleton.1 new)

/-- A command that waits for known events can be recorded, and then it is known. -/
theorem record_ok (sound : t.Sound) (known : ∀ w ∈ wait, t.Knows w) (kind : EventKind) :
    ∃ id t', t.record kind wait = .ok (id, t') ∧ Later t t' ∧ t'.Knows id := by
  unfold record
  rw [sound.checkAll_ok_iff.2 known]
  exact ⟨_, _, rfl, sound.add (r := ⟨kind, !t.deferred, wait⟩) _ _ known sound.frontier_append (.inl rfl),
    sound.knows_next rfl rfl⟩

/-- A marker over known events is placed; a full one waits for the frontier, which is known. -/
theorem marker_ok (sound : t.Sound) (known : ∀ w ∈ wait, t.Knows w) :
    ∃ id deps t', t.marker wait = .ok ((id, deps), t') ∧ Later t t' ∧ t'.Knows id := by
  rcases wait with _ | ⟨w, rest⟩
  · obtain ⟨complete, ran⟩ := sound.allComplete_ok sound.frontier
    have added := sound.add (r := ⟨.marker, complete, t.frontier⟩) [t.nextId] (some t.nextId) sound.frontier
      (fun id member => .inr (List.mem_singleton.1 member)) (.inr rfl)
    obtain ⟨t', retired, later⟩ := added.sound.retireCovered_ok
    exact ⟨_, _, t', marker_full (sound.checkAll_ok_iff.2 sound.frontier) ran retired,
      ⟨later.sound, fun id known => later.knows id (added.knows id known)⟩,
      later.knows _ (sound.knows_next rfl rfl)⟩
  · obtain ⟨complete, ran⟩ := sound.allComplete_ok known
    have added := sound.add (r := ⟨.marker, complete, w :: rest⟩) _ t.lastFull known
      sound.frontier_append (.inl rfl)
    refine ⟨t.nextId, w :: rest, _, ?_, added, sound.knows_next rfl rfl⟩
    simp only [marker, List.isEmpty_cons, if_false, Bool.false_eq_true,
      sound.checkAll_ok_iff.2 known, ran, bind, Except.bind]
    rfl

/-- A known event can be waited for. -/
theorem drain_ok (sound : t.Sound) (known : t.Knows id) :
    ∃ t', t.drain id = .ok t' ∧ Later t t' := by
  obtain ⟨events, ran⟩ := sound.unfinished_ok known
  have finished := sound.finishAll events
  obtain ⟨t', retired, later⟩ := finished.sound.retireCovered_ok
  refine ⟨t', ?_, later.sound, fun id known => later.knows id (finished.knows id known)⟩
  simp only [drain, ran, bind, Except.bind, retired]

private theorem complete_ok (sound : t.Sound) (known : t.Knows id) :
    ∃ t', t.complete id = .ok t' ∧ Later t t' := by
  refine ⟨t.finish id, ?_, sound.finishAll [id]⟩
  rw [complete, sound.lookup, if_pos known]
  rfl

end Sound

/-! ### Requests with any handles

A request that names an unknown event is refused, so that no request does harm. -/

/-- A new record forgets no event. -/
theorem steady_record {kind : EventKind} (ran : t.record kind wait = .ok (id, t')) : Steady t t' := by
  intro sound
  have known : ∀ w ∈ wait, t.Knows w := by
    refine sound.checkAll_ok_iff.1 ?_
    rcases checked : t.checkAll wait with e | _
    · rw [record, checked] at ran
      cases ran
    · rfl
  obtain ⟨_, _, ran', later, _⟩ := sound.record_ok known kind
  cases ran.symm.trans ran'
  exact later

/-- A new marker forgets no event. -/
theorem steady_marker {deps : List EventId} (ran : t.marker wait = .ok ((id, deps), t')) :
    Steady t t' := by
  intro sound
  have known : ∀ w ∈ wait, t.Knows w := by
    rcases wait with _ | ⟨w, rest⟩
    · nofun
    refine sound.checkAll_ok_iff.1 ?_
    rcases checked : t.checkAll (w :: rest) with e | _
    · simp only [marker, List.isEmpty_cons, if_false, Bool.false_eq_true, checked] at ran
      cases ran
    · rfl
  obtain ⟨_, _, _, ran', later, _⟩ := sound.marker_ok known
  cases ran.symm.trans ran'
  exact later

/-- An unknown event is refused by its number. -/
theorem Sound.lookup_error (sound : t.Sound) (unknown : ¬ t.Knows id) :
    t.lookup id = .error (.invalidEvent id) := by
  rw [sound.lookup, if_neg unknown]

/-- A wait forgets no event. -/
theorem steady_drain (ran : t.drain id = .ok t') : Steady t t' := by
  intro sound
  by_cases known : t.Knows id
  · obtain ⟨_, ran', later⟩ := sound.drain_ok known
    cases ran.symm.trans ran'
    exact later
  · rw [drain, unfinished, explore_refused (sound.lookup_error known)] at ran
    cases ran

/-- A completion forgets no event. -/
theorem steady_complete (ran : t.complete id = .ok t') : Steady t t' := by
  intro sound
  by_cases known : t.Knows id
  · obtain ⟨_, ran', later⟩ := sound.complete_ok known
    cases ran.symm.trans ran'
    exact later
  · rw [complete, sound.lookup_error known] at ran
    cases ran

end Offload.EventTable
