import Offload.Proofs.Operations

/-! Two runs that mirror each other. They succeed together with results that compare, or they fail
together with errors that compare, and they leave related states. Nothing is asked of the two when one
of them has run out of memory. -/
namespace Offload.Op

/-- Which errors are the same to an observer. -/
class Faults (ε : Type) where
  alike : ε → ε → Prop
  alike_refl : ∀ e, alike e e

/-- Which errors mean that memory has run out, given the state in which they were raised. -/
class Scarce (ε σ : Type) where
  starved : ε → σ → Prop

variable {ε ε' σ τ α α' β β' : Type}

section Paired

variable [Faults ε] {V : α → β → Prop} {r : Except ε α} {r' : Except ε β}

/-- Two results that compare. -/
inductive Paired (V : α → β → Prop) : Except ε α → Except ε β → Prop where
  | ok {a : α} {b : β} (values : V a b) : Paired V (.ok a) (.ok b)
  | error {e e' : ε} (alike : Faults.alike e e') : Paired V (.error e) (.error e')

/-- A result is paired with itself. -/
theorem paired_same {V : α → α → Prop} {r : Except ε α} (values : ∀ a, r = .ok a → V a a) : Paired V r r := by
  cases r with
  | error e => exact .error (Faults.alike_refl e)
  | ok a => exact .ok (values a rfl)

/-- Pairs may be held to less. -/
theorem Paired.weaken {V' : α → β → Prop} (paired : Paired V r r') (values : ∀ a b, V a b → V' a b) :
    Paired V' r r' := by
  cases paired with
  | ok holds => exact .ok (values _ _ holds)
  | error alike => exact .error alike

/-- Computations that go on from values that compare. -/
theorem paired_bind {W : α' → β' → Prop} {next : α → Except ε α'} {next' : β → Except ε β'}
    (head : Paired V r r') (tail : ∀ a b, V a b → Paired W (next a) (next' b)) :
    Paired W (r >>= next) (r' >>= next') := by
  cases head with
  | ok holds => exact tail _ _ holds
  | error alike => exact .error alike

/-- Values that compare were computed. -/
theorem Paired.attach (paired : Paired V r r') : Paired (fun a b => r = .ok a ∧ r' = .ok b ∧ V a b) r r' := by
  cases paired with
  | ok holds => exact .ok ⟨rfl, rfl, holds⟩
  | error alike => exact .error alike

/-- Paired results stay paired under changes that keep them so. -/
theorem paired_map {W : α' → β' → Prop} {f : α → α'} {g : β → β'} (head : Paired V r r')
    (values : ∀ a b, V a b → W (f a) (g b)) : Paired W (r.map f) (r'.map g) := by
  cases head with
  | ok holds => exact .ok (values _ _ holds)
  | error alike => exact .error alike

end Paired

/-! ### Running out of memory -/

section Starves

variable [Scarce ε σ] [Scarce ε' σ] {s : σ} {first : Op ε σ α} {next : α → Op ε σ α'}

/-- The operation runs out of memory. -/
def Starves (op : Op ε σ α) (s : σ) : Prop :=
  ∃ e, (op s).result = .error e ∧ Scarce.starved e (op s).state

/-- Without memory there is no more to be done. -/
theorem Starves.bind (starves : Starves first s) : Starves (first >>= next) s := by
  obtain ⟨e, failed, starved⟩ := starves
  unfold Starves
  rcases ran : first s with ⟨_ | a, s', log⟩ <;> rw [ran] at failed starved <;> cases failed
  rw [bind_error ran]
  exact ⟨e, rfl, starved⟩

/-- An operation starves where its second half does. -/
theorem Starves.after {a : α} {s' : σ} (ran : Yields first s a s') (starves : Starves (next a) s') :
    Starves (first >>= next) s := by
  obtain ⟨result, rfl⟩ := ran
  obtain ⟨e, failed, starved⟩ := starves
  unfold Starves
  rcases ran : first s with ⟨_ | _, s', log⟩ <;> rw [ran] at result failed starved <;> cases result
  rw [bind_ok ran]
  exact ⟨e, failed, starved⟩

/-- Failures handed on as values keep a run out of memory, when they end it. -/
theorem Starves.attempt_bind {first : Op ε' σ α} {next : Except ε' α → Op ε σ α'} (starves : Starves first s)
    (ends : ∀ e s', Scarce.starved e s' → Starves (next (.error e)) s') :
    Starves (attempt first >>= next) s := by
  obtain ⟨e, failed, starved⟩ := starves
  exact Starves.after (yields_attempt.2 ⟨failed, rfl⟩) (ends e _ starved)

private theorem Starves.mapError {convert : ε → ε'} (starves : Starves first s)
    (starved : ∀ (e : ε) (s : σ), Scarce.starved e s → Scarce.starved (convert e) s) :
    Starves (mapError convert first) s := by
  obtain ⟨e, failed, hungry⟩ := starves
  unfold Starves Op.mapError
  rcases ran : first s with ⟨_ | a, s', log⟩ <;> rw [ran] at failed hungry <;> cases failed
  exact ⟨_, rfl, starved e _ hungry⟩

end Starves

/-! ### Mirrors -/

variable [Faults ε] [Faults ε'] [Scarce ε σ] [Scarce ε' σ] [Scarce ε τ]

/-- The second operation does as the first one does, unless one of them runs out of memory. -/
def Mirrors (first : Op ε σ α) (second : Op ε σ β) (R : σ → σ → Prop) (V : α → β → σ → σ → Prop)
    (s t : σ) : Prop :=
  (Starves first s ∨ Starves second t) ∨
    R (first s).state (second t).state ∧
      Paired (fun a b => V a b (first s).state (second t).state) (first s).result (second t).result

variable {R : σ → σ → Prop} {V : α → β → σ → σ → Prop} {W : α' → β' → σ → σ → Prop} {s t : σ}
  {first : Op ε σ α} {second : Op ε σ β} {next : α → Op ε σ α'} {next' : β → Op ε σ β'}

/-- Two successes that are known. -/
theorem mirrors_of_yields {a : α} {b : β} {s' t' : σ} (ran : Yields first s a s')
    (ran' : Yields second t b t') (related : R s' t') (values : V a b s' t') :
    Mirrors first second R V s t := by
  obtain ⟨result, rfl⟩ := ran
  obtain ⟨result', rfl⟩ := ran'
  refine .inr ⟨related, ?_⟩
  rw [result, result']
  exact .ok values

/-- Mirrored runs may be held to less. -/
theorem Mirrors.weaken {R' : σ → σ → Prop} {V' : α → β → σ → σ → Prop} (head : Mirrors first second R V s t)
    (states : ∀ s t, R s t → R' s t) (values : ∀ a b s t, V a b s t → V' a b s t) :
    Mirrors first second R' V' s t :=
  head.imp_right fun ⟨related, paired⟩ => ⟨states _ _ related, paired.weaken fun a b => values a b _ _⟩

/-- Mirrored halves make mirrored wholes, unless one of them has starved by then. -/
theorem mirrors_bind (head : Mirrors first second R V s t)
    (tail : ∀ a b s' t', Yields first s a s' → Yields second t b t' → R s' t' → V a b s' t' →
      Mirrors (next a) (next' b) R W s' t') :
    Mirrors (first >>= next) (second >>= next') R W s t := by
  rcases head with starves | ⟨related, paired⟩
  · exact .inl (starves.imp Starves.bind Starves.bind)
  unfold Mirrors Starves
  rcases ran : first s with ⟨e | a, s', log⟩ <;> rcases ran' : second t with ⟨e' | b, t', log'⟩ <;>
    rw [ran, ran'] at related paired <;> cases paired
  · rw [bind_error ran, bind_error ran']
    exact .inr ⟨related, .error (by assumption)⟩
  · rw [bind_ok ran, bind_ok ran']
    refine tail a b s' t' ?_ ?_ related (by assumption)
    · exact ⟨by rw [ran], by rw [ran]⟩
    · exact ⟨by rw [ran'], by rw [ran']⟩

/-- Two successes that are known, and then more. -/
theorem mirrors_after {a : α} {b : β} {s' t' : σ} (ran : Yields first s a s') (ran' : Yields second t b t')
    (tail : Mirrors (next a) (next' b) R W s' t') :
    Mirrors (first >>= next) (second >>= next') R W s t := by
  rcases tail with starves | ⟨related, paired⟩
  · exact .inl (starves.imp (Starves.after ran) (Starves.after ran'))
  obtain ⟨result, rfl⟩ := ran
  obtain ⟨result', rfl⟩ := ran'
  refine .inr ?_
  rcases ran : first s with ⟨e | _, s', log⟩ <;> rw [ran] at result related paired <;> cases result
  rcases ran' : second t with ⟨e' | _, t', log'⟩ <;> rw [ran'] at result' related paired <;> cases result'
  rw [bind_ok ran, bind_ok ran']
  exact ⟨related, paired⟩

theorem mirrors_pure {a : α} {b : β} (related : R s t) (values : V a b s t) :
    Mirrors (pure a : Op ε σ α) (pure b : Op ε σ β) R V s t :=
  .inr ⟨related, .ok values⟩

theorem mirrors_fail {e e' : ε} (related : R s t) (alike : Faults.alike e e') :
    Mirrors (fail e : Op ε σ α) (fail e' : Op ε σ β) R V s t :=
  .inr ⟨related, .error alike⟩

/-- What reads its state is mirrored by what reads the other one. -/
theorem mirrors_get {next : σ → Op ε σ α} {next' : σ → Op ε σ β} (tail : Mirrors (next s) (next' t) R V s t) :
    Mirrors ((get : Op ε σ σ) >>= next) ((get : Op ε σ σ) >>= next') R V s t :=
  tail

/-- Paired results are mirrored as they are. -/
theorem mirrors_ofExcept {r : Except ε α} {r' : Except ε β} (related : R s t)
    (results : Paired (fun a b => V a b s t) r r') :
    Mirrors (ofExcept r : Op ε σ α) (ofExcept r' : Op ε σ β) R V s t := by
  cases results with
  | ok values => exact mirrors_pure related values
  | error alike => exact mirrors_fail related alike

/-- A computation that both sides make goes on with values that compare. -/
theorem mirrors_ofExcept_bind {P : α → β → Prop} {r : Except ε α} {r' : Except ε β} (related : R s t)
    (results : Paired P r r')
    (tail : ∀ a b, r = .ok a → r' = .ok b → P a b → Mirrors (next a) (next' b) R W s t) :
    Mirrors (ofExcept r >>= next) (ofExcept r' >>= next') R W s t := by
  cases results with
  | ok values => exact tail _ _ rfl rfl values
  | error alike => exact mirrors_fail related alike

/-- One check on both sides passes on both or on neither. -/
theorem mirrors_same_bind {r : Except ε α} {next' : α → Op ε σ β'} (related : R s t)
    (tail : ∀ a, r = .ok a → Mirrors (next a) (next' a) R W s t) :
    Mirrors (ofExcept r >>= next) (ofExcept r >>= next') R W s t :=
  mirrors_ofExcept_bind (P := Eq) related (paired_same fun _ _ => rfl) fun a b found _ same => by
    subst same
    exact tail a found

/-- A choice that both sides make alike. -/
theorem mirrors_ite {c c' : Prop} [Decidable c] [Decidable c'] {yes no : Op ε σ α} {yes' no' : Op ε σ β}
    (same : c ↔ c') (left : c → Mirrors yes yes' R V s t) (right : ¬ c → Mirrors no no' R V s t) :
    Mirrors (if c then yes else no) (if c' then yes' else no') R V s t := by
  by_cases holds : c
  · rw [if_pos holds, if_pos (same.1 holds)]
    exact left holds
  · rw [if_neg holds, if_neg fun holds' => holds (same.2 holds')]
    exact right holds

/-- Changes are mirrored if the changed states still belong together. -/
theorem mirrors_modify {change change' : σ → σ} {V : Unit → Unit → σ → σ → Prop}
    (related : R (change s) (change' t)) (values : V () () (change s) (change' t)) :
    Mirrors (modify change : Op ε σ Unit) (modify change' : Op ε σ Unit) R V s t :=
  .inr ⟨related, .ok values⟩

/-- Behind changes on both sides the rest is mirrored from the changed states. -/
theorem mirrors_modify_bind {change change' : σ → σ} {next : Unit → Op ε σ α'} {next' : Unit → Op ε σ β'}
    (tail : Mirrors (next ()) (next' ()) R W (change s) (change' t)) :
    Mirrors (modify change >>= next) (modify change' >>= next') R W s t :=
  mirrors_after (yields_modify.2 rfl) (yields_modify.2 rfl) tail

/-- A log is no step. -/
theorem mirrors_emit_bind {event event' : LogEvent} {next : Unit → Op ε σ α'} {next' : Unit → Op ε σ β'}
    (tail : Mirrors (next ()) (next' ()) R W s t) :
    Mirrors (emit event >>= next) (emit event' >>= next') R W s t :=
  mirrors_after (yields_emit.2 rfl) (yields_emit.2 rfl) tail

theorem mirrors_emit {event event' : LogEvent} {V : Unit → Unit → σ → σ → Prop} (related : R s t)
    (values : V () () s t) : Mirrors (emit event : Op ε σ Unit) (emit event' : Op ε σ Unit) R V s t :=
  .inr ⟨related, .ok values⟩

/-- A step that both sides take or refuse. -/
theorem mirrors_step {f : σ → Except ε (α × σ)} {g : σ → Except ε (β × σ)} (related : R s t)
    (results : Paired (fun x y => R x.2 y.2 ∧ V x.1 y.1 x.2 y.2) (f s) (g t)) :
    Mirrors (step f) (step g) R V s t := by
  unfold Mirrors step
  rcases ran : f s with e | ⟨a, s'⟩ <;> rcases ran' : g t with e' | ⟨b, t'⟩ <;> rw [ran, ran'] at results <;>
    cases results
  · exact .inr ⟨related, .error (by assumption)⟩
  · next both => exact .inr ⟨both.1, .ok both.2⟩

theorem mirrors_map {f : α → α'} {g : β → β'} (head : Mirrors first second R V s t)
    (values : ∀ a b s t, V a b s t → W (f a) (g b) s t) : Mirrors (f <$> first) (g <$> second) R W s t :=
  mirrors_bind head fun a b _ _ _ _ related holds => mirrors_pure related (values a b _ _ holds)

/-- A result that both sides hand on as a value, failure included. -/
theorem mirrors_attempt_bind {first : Op ε' σ α} {second : Op ε' σ β} {next : Except ε' α → Op ε σ α'}
    {next' : Except ε' β → Op ε σ β'} (head : Mirrors first second R V s t)
    (ends : ∀ e s', Scarce.starved e s' → Starves (next (.error e)) s')
    (ends' : ∀ e s', Scarce.starved e s' → Starves (next' (.error e)) s')
    (tail : ∀ r r', (first s).result = r → (second t).result = r' → R (first s).state (second t).state →
      Paired (fun a b => V a b (first s).state (second t).state) r r' →
        Mirrors (next r) (next' r') R W (first s).state (second t).state) :
    Mirrors (attempt first >>= next) (attempt second >>= next') R W s t := by
  rcases head with starves | ⟨related, paired⟩
  · exact .inl (starves.imp (Starves.attempt_bind · ends) (Starves.attempt_bind · ends'))
  · exact mirrors_after (yields_attempt.2 ⟨rfl, rfl⟩) (yields_attempt.2 ⟨rfl, rfl⟩)
      (tail _ _ rfl rfl related paired)

/-- Errors may change on both sides as long as they stay alike. -/
theorem mirrors_mapError {convert : ε → ε'} (head : Mirrors first second R V s t)
    (starved : ∀ (e : ε) (s : σ), Scarce.starved e s → Scarce.starved (convert e) s)
    (alike : ∀ e e', Faults.alike e e' → Faults.alike (convert e) (convert e')) :
    Mirrors (mapError convert first) (mapError convert second) R V s t := by
  rcases head with starves | ⟨related, paired⟩
  · exact .inl (starves.imp (Starves.mapError · starved) (Starves.mapError · starved))
  unfold Mirrors mapError
  rcases ran : first s with ⟨e | a, s', log⟩ <;> rcases ran' : second t with ⟨e' | b, t', log'⟩ <;>
    rw [ran, ran'] at related paired <;> cases paired
  · exact .inr ⟨related, .error (alike _ _ (by assumption))⟩
  · exact .inr ⟨related, .ok (by assumption)⟩

/-- Work on parts of larger states. -/
theorem mirrors_onPart {view view' : τ → σ} {update update' : σ → τ → τ} {x y : τ} {Q : τ → τ → Prop}
    {V' : α → β → τ → τ → Prop} (head : Mirrors first second R V (view x) (view' y))
    (starved : ∀ (e : ε) (part : σ), Scarce.starved e part →
      Scarce.starved e (update part x) ∧ Scarce.starved e (update' part y))
    (lift : ∀ part part', R part part' → Q (update part x) (update' part' y))
    (values : ∀ a b part part', V a b part part' → V' a b (update part x) (update' part' y)) :
    Mirrors (onPart view update first) (onPart view' update' second) Q V' x y := by
  rcases head with (⟨e, failed, hungry⟩ | ⟨e, failed, hungry⟩) | ⟨related, paired⟩
  · exact .inl (.inl ⟨e, failed, (starved e _ hungry).1⟩)
  · exact .inl (.inr ⟨e, failed, (starved e _ hungry).2⟩)
  · exact .inr ⟨lift _ _ related, paired.weaken fun a b => values a b _ _⟩

/-- Operations that change nothing when they fail: the states have to be related after successes only. -/
theorem mirrors_of_refuses (refuses : Refuses first) (refuses' : Refuses second) (related : R s t)
    (head : Mirrors first second (fun _ _ => True) (fun a b s t => R s t ∧ V a b s t) s t) :
    Mirrors first second R V s t := by
  refine head.imp_right fun ⟨_, paired⟩ => ?_
  have failed := refuses s
  have failed' := refuses' t
  rcases ran : first s with ⟨e | a, s', log⟩ <;> rcases ran' : second t with ⟨e' | b, t', log'⟩ <;>
    rw [ran] at paired failed <;> rw [ran'] at paired failed' <;> cases paired
  · cases failed e rfl
    cases failed' e' rfl
    exact ⟨related, .error (by assumption)⟩
  · next both => exact ⟨both.1, .ok both.2⟩

end Offload.Op
