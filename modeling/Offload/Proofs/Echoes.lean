import Offload.Proofs.Operations

/-! Two runs, of which the second succeeds wherever the first one does. The runs may be of different
operations and from different states; what relates their states is to hold again after each step. A
step that only one side makes is skipped. Failures of the first run promise nothing. -/
namespace Offload.Op

variable {ε ε' ε'' σ τ σ' τ' α α' β β' : Type}

/-- Where the first operation succeeds the second does too, and they leave related states and related
results. -/
def Echoes (first : Op ε σ α) (second : Op ε' τ β) (R : σ → τ → Prop) (V : α → β → τ → Prop) (s : σ)
    (t : τ) : Prop :=
  ∀ a s', Yields first s a s' → ∃ b t', Yields second t b t' ∧ R s' t' ∧ V a b t'

variable {R : σ → τ → Prop} {V : α → β → τ → Prop} {W : α' → β' → τ → Prop} {s : σ} {t : τ}
  {first : Op ε σ α} {second : Op ε' τ β} {next : α → Op ε σ α'} {next' : β → Op ε' τ β'}

/-- Halves that are repeated make a whole that is repeated. -/
theorem echoes_bind (head : Echoes first second R V s t)
    (tail : ∀ a b s' t', Yields second t b t' → R s' t' → V a b t' →
      Echoes (next a) (next' b) R W s' t') :
    Echoes (first >>= next) (second >>= next') R W s t := by
  intro c u ran
  obtain ⟨a, s', ran, rest⟩ := yields_bind.1 ran
  obtain ⟨b, t', echo, related, values⟩ := head a s' ran
  obtain ⟨d, v, echo', outcome⟩ := tail a b s' t' echo related values c u rest
  exact ⟨d, v, yields_bind.2 ⟨b, t', echo, echo'⟩, outcome⟩

theorem echoes_pure {a : α} {b : β} (related : R s t) (values : V a b t) :
    Echoes (pure a : Op ε σ α) (pure b : Op ε' τ β) R V s t := by
  intro a' s' ran
  obtain ⟨rfl, rfl⟩ := yields_pure.1 ran
  exact ⟨b, t, yields_pure.2 ⟨rfl, rfl⟩, related, values⟩

/-- A failure promises nothing. -/
theorem echoes_fail {e : ε} : Echoes (fail e : Op ε σ α) second R V s t :=
  fun _ _ ran => absurd ran yields_fail

/-- What each side reads is its own. -/
theorem echoes_get {next : σ → Op ε σ α} {next' : τ → Op ε' τ β}
    (tail : Echoes (next s) (next' t) R V s t) :
    Echoes ((get : Op ε σ σ) >>= next) ((get : Op ε' τ τ) >>= next') R V s t := by
  intro a s' ran
  obtain ⟨_, _, looked, rest⟩ := yields_bind.1 ran
  obtain ⟨rfl, rfl⟩ := yields_get.1 looked
  obtain ⟨b, t', echo, outcome⟩ := tail a s' rest
  exact ⟨b, t', yields_bind.2 ⟨t, t, yields_get.2 ⟨rfl, rfl⟩, echo⟩, outcome⟩

/-- A computation that both sides make goes on with its value. -/
theorem echoes_ofExcept_bind {r : Except ε α} {r' : Except ε' β}
    (values : ∀ a, r = .ok a → ∃ b, r' = .ok b ∧ Echoes (next a) (next' b) R W s t) :
    Echoes (ofExcept r >>= next) (ofExcept r' >>= next') R W s t := by
  intro c u ran
  obtain ⟨a, s', same, rest⟩ := yields_bind.1 ran
  obtain ⟨rfl, rfl⟩ := yields_ofExcept.1 same
  obtain ⟨b, rfl, echo⟩ := values a rfl
  obtain ⟨d, v, echo, outcome⟩ := echo c u rest
  exact ⟨d, v, yields_bind.2 ⟨b, t, yields_ofExcept.2 ⟨rfl, rfl⟩, echo⟩, outcome⟩

/-- A check that passes on the first side passes on the second. -/
theorem echoes_same_bind {r : Except ε α} {next' : α → Op ε τ β'}
    (tail : ∀ a, r = .ok a → Echoes (next a) (next' a) R W s t) :
    Echoes (ofExcept r >>= next) (ofExcept r >>= next') R W s t :=
  echoes_ofExcept_bind fun a same => ⟨a, same, tail a same⟩

theorem echoes_same {r : Except ε α} {V : α → α → τ → Prop} (related : R s t)
    (values : ∀ a, r = .ok a → V a a t) : Echoes (ofExcept r) (ofExcept r : Op ε τ α) R V s t := by
  intro a s' ran
  obtain ⟨same, rfl⟩ := yields_ofExcept.1 ran
  exact ⟨a, t, yields_ofExcept.2 ⟨same, rfl⟩, related, values a same⟩

/-- Both sides take the same branch. -/
theorem echoes_ite {c : Prop} [Decidable c] {yes no : Op ε σ α} {yes' no' : Op ε' τ β}
    (left : c → Echoes yes yes' R V s t) (right : ¬ c → Echoes no no' R V s t) :
    Echoes (if c then yes else no) (if c then yes' else no') R V s t := by
  split
  · next holds => exact left holds
  · next fails => exact right fails

/-- Changes on both sides leave related states related, as `related` says. -/
theorem echoes_modify {change : σ → σ} {change' : τ → τ} {V : Unit → Unit → τ → Prop}
    (related : R (change s) (change' t)) (values : V () () (change' t)) :
    Echoes (modify change : Op ε σ Unit) (modify change' : Op ε' τ Unit) R V s t := by
  intro a s' ran
  obtain rfl := yields_modify.1 ran
  exact ⟨(), change' t, yields_modify.2 rfl, related, values⟩

/-- What only the first side does. -/
theorem echoes_left {other : Op ε' τ β'}
    (tail : ∀ a s', Yields first s a s' → Echoes (next a) other R W s' t) :
    Echoes (first >>= next) other R W s t := by
  intro c u ran
  obtain ⟨a, s', ran, rest⟩ := yields_bind.1 ran
  exact tail a s' ran c u rest

/-- What only the second side does. -/
theorem echoes_right {other : Op ε σ α'} {b : β} {t' : τ} (ran : Yields second t b t')
    (tail : Echoes other (next' b) R W s t') : Echoes other (second >>= next') R W s t := by
  intro c u ran'
  obtain ⟨d, v, echo, outcome⟩ := tail c u ran'
  exact ⟨d, v, yields_bind.2 ⟨b, t', ran, echo⟩, outcome⟩

/-- A log is no step. -/
theorem echoes_emit_bind {event event' : LogEvent} {next : Unit → Op ε σ α'} {next' : Unit → Op ε' τ β'}
    (tail : Echoes (next ()) (next' ()) R W s t) :
    Echoes (emit event >>= next) (emit event' >>= next') R W s t :=
  echoes_left fun _ _ ran => by
    obtain rfl := yields_emit.1 ran
    exact echoes_right (yields_emit.2 rfl) tail

theorem echoes_emit {event event' : LogEvent} {V : Unit → Unit → τ → Prop} (related : R s t)
    (values : V () () t) :
    Echoes (emit event : Op ε σ Unit) (emit event' : Op ε' τ Unit) R V s t := by
  intro a s' ran
  obtain rfl := yields_emit.1 ran
  exact ⟨(), t, yields_emit.2 rfl, related, values⟩

theorem echoes_map {f : α → α'} {g : β → β'} (head : Echoes first second R V s t)
    (values : ∀ a b t', V a b t' → W (f a) (g b) t') : Echoes (f <$> first) (g <$> second) R W s t :=
  echoes_bind head fun a b _ _ _ related holds => echoes_pure related (values a b _ holds)

/-- A result that both sides hand on as a value, when the first side goes on from successes only. -/
theorem echoes_attempt_bind {first : Op ε'' σ α} {second : Op ε'' τ β}
    {next : Except ε'' α → Op ε σ α'} {next' : Except ε'' β → Op ε' τ β'}
    (head : Echoes first second R V s t) (stops : ∀ e s' c u, ¬ Yields (next (.error e)) s' c u)
    (tail : ∀ a b s' t', Yields second t b t' → R s' t' → V a b t' →
      Echoes (next (.ok a)) (next' (.ok b)) R W s' t') :
    Echoes (attempt first >>= next) (attempt second >>= next') R W s t := by
  intro c u ran
  obtain ⟨r, s', tried, rest⟩ := yields_bind.1 ran
  obtain ⟨result, state⟩ := yields_attempt.1 tried
  cases r with
  | error e => exact absurd rest (stops e s' c u)
  | ok a =>
    obtain ⟨b, t', echo, related, values⟩ := head a s' ⟨result, state⟩
    obtain ⟨d, v, echo', outcome⟩ := tail a b s' t' echo related values c u rest
    exact ⟨d, v, yields_bind.2 ⟨.ok b, t', yields_attempt.2 echo, echo'⟩, outcome⟩

theorem echoes_mapError {convert : ε → ε''} {convert' : ε' → ε''} (head : Echoes first second R V s t) :
    Echoes (mapError convert first) (mapError convert' second) R V s t := by
  intro a s' ran
  obtain ⟨b, t', echo, outcome⟩ := head a s' (yields_mapError.1 ran)
  exact ⟨b, t', yields_mapError.2 echo, outcome⟩

/-- Work on parts of larger states. -/
theorem echoes_onPart {view : σ' → σ} {update : σ → σ' → σ'} {view' : τ' → τ} {update' : τ → τ' → τ'}
    {x : σ'} {y : τ'} {Q : σ' → τ' → Prop} {V' : α → β → τ' → Prop}
    (head : Echoes first second R V (view x) (view' y))
    (lift : ∀ part part', R part part' → Q (update part x) (update' part' y))
    (values : ∀ a b part, V a b part → V' a b (update' part y)) :
    Echoes (onPart view update first) (onPart view' update' second) Q V' x y := by
  intro a x' ran
  obtain ⟨part, worked, rfl⟩ := yields_onPart.1 ran
  obtain ⟨b, part', echo, related, holds⟩ := head a part worked
  exact ⟨b, _, yields_onPart.2 ⟨part', echo, rfl⟩, lift _ _ related, values _ _ _ holds⟩

end Offload.Op
