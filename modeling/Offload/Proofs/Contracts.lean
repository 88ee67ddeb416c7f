import Offload.Proofs.Operations

/-! Contracts of operations. A contract speaks of one starting state: it says which states may come of
it, failures included, which errors are excused, and what holds of a result. Errors are judged where
the operation started, so that a contract of a sequence is put together from those of its parts. -/
namespace Offload.Op

variable {ε ε' σ τ α β : Type}

/-- From a state on, the operation ends in a state that `R` allows, with an error that `E` excuses or
with a result that satisfies `Q`. -/
structure Serves (op : Op ε σ α) (R : σ → σ → Prop) (E : σ → ε → Prop) (Q : α → σ → Prop) (s : σ) :
    Prop where
  state : R s (op s).state
  error : ∀ e, (op s).result = .error e → E s e
  value : ∀ a, (op s).result = .ok a → Q a (op s).state

/-- What is excused later is excused from the start. -/
class Hereditary (R : σ → σ → Prop) (E : σ → ε → Prop) : Prop where
  back : ∀ {s t e}, R s t → E t e → E s e

instance (R : σ → σ → Prop) (P : ε → Prop) : Hereditary R fun _ => P where
  back _ excused := excused

section Serves

variable {R : σ → σ → Prop} {E : σ → ε → Prop} {P : α → σ → Prop} {Q : β → σ → Prop} {s : σ}

/-- A success meets its contract. -/
theorem Serves.yields {op : Op ε σ α} {a : α} {t : σ} (serves : Serves op R E P s)
    (ran : Yields op s a t) : R s t ∧ P a t := by
  obtain ⟨result, rfl⟩ := ran
  exact ⟨serves.state, serves.value a result⟩

/-- The contract of a success that is known. -/
theorem serves_of_yields {op : Op ε σ α} {a : α} {t : σ} (ran : Yields op s a t) (allowed : R s t)
    (holds : P a t) : Serves op R E P s := by
  obtain ⟨result, rfl⟩ := ran
  refine ⟨allowed, fun e failed => ?_, fun a' succeeded => ?_⟩
  · cases result.symm.trans failed
  · cases result.symm.trans succeeded
    exact holds

/-- The contract of a failure that is known and has changed nothing. -/
theorem serves_of_refused {op : Op ε σ α} {e : ε} (refl : R s s) (failed : (op s).result = .error e)
    (same : (op s).state = s) (excused : E s e) : Serves op R E P s := by
  refine ⟨by rw [same]; exact refl, fun e' failed' => ?_, fun a succeeded => ?_⟩
  · cases failed.symm.trans failed'
    exact excused
  · cases failed.symm.trans succeeded

/-- A contract may promise less. -/
theorem Serves.weaken {op : Op ε σ α} {P' : α → σ → Prop} (serves : Serves op R E P s)
    (less : ∀ a t, R s t → P a t → P' a t) : Serves op R E P' s :=
  ⟨serves.state, serves.error, fun a result => less a _ serves.state (serves.value a result)⟩

/-- A contract may say more where the operation is known to move its state in some other way too. -/
theorem Serves.moving {op : Op ε σ α} {S : σ → σ → Prop} (serves : Serves op R E P s)
    (moves : Moves op S) : Serves op R E (fun a t => P a t ∧ S s t) s :=
  ⟨serves.state, serves.error, fun a result => ⟨serves.value a result, moves s⟩⟩

/-- The contract of a choice is that of the branch taken. -/
theorem serves_ite {c : Prop} [Decidable c] {yes no : Op ε σ α} (left : c → Serves yes R E P s)
    (right : ¬ c → Serves no R E P s) : Serves (if c then yes else no) R E P s := by
  split
  · next holds => exact left holds
  · next fails => exact right fails

section Steps

variable [Transition R]

theorem serves_pure {a : α} (holds : P a s) : Serves (pure a) R E P s := by
  refine ⟨Transition.refl s, nofun, fun a' same => ?_⟩
  cases same
  exact holds

theorem serves_fail {e : ε} (excused : E s e) : Serves (fail e) R E P s := by
  refine ⟨Transition.refl s, fun e' same => ?_, nofun⟩
  cases same
  exact excused

theorem serves_emit {event : LogEvent} {P : Unit → σ → Prop} (holds : P () s) :
    Serves (emit event) R E P s := by
  refine ⟨Transition.refl s, nofun, fun _ _ => holds⟩

theorem serves_ofExcept {r : Except ε α} (excused : ∀ e, r = .error e → E s e)
    (holds : ∀ a, r = .ok a → P a s) : Serves (ofExcept r) R E P s := by
  cases r with
  | error e => exact serves_fail (excused e rfl)
  | ok a => exact serves_pure (holds a rfl)

omit [Transition R] in
theorem serves_modify {change : σ → σ} {P : Unit → σ → Prop} (allowed : R s (change s))
    (holds : P () (change s)) : Serves (modify change) R E P s :=
  ⟨allowed, nofun, fun _ _ => holds⟩

/-- The contract of a step is read off its transition. -/
theorem serves_step {transition : σ → Except ε (α × σ)}
    (refused : ∀ e, transition s = .error e → E s e)
    (done : ∀ a t, transition s = .ok (a, t) → R s t ∧ P a t) : Serves (step transition) R E P s := by
  rcases ran : transition s with e | ⟨a, t⟩
  · have same : step transition s = ⟨.error e, s, []⟩ := by simp only [step, ran]
    refine ⟨?_, ?_, ?_⟩ <;> rw [same]
    · exact Transition.refl s
    · rintro _ ⟨⟩
      exact refused e ran
    · rintro _ ⟨⟩
  · have same : step transition s = ⟨.ok a, t, []⟩ := by simp only [step, ran]
    obtain ⟨allowed, holds⟩ := done a t ran
    refine ⟨?_, ?_, ?_⟩ <;> rw [same]
    · exact allowed
    · rintro _ ⟨⟩
    · rintro _ ⟨⟩
      exact holds

/-- The second operation is judged where the first one left off. -/
theorem serves_bind [Hereditary R E] {first : Op ε σ α} {next : α → Op ε σ β}
    (head : Serves first R E P s) (tail : ∀ a t, R s t → P a t → Serves (next a) R E Q t) :
    Serves (first >>= next) R E Q s := by
  obtain ⟨state, error, value⟩ := head
  rcases ran : first s with ⟨e | a, t, log⟩ <;> rw [ran] at state error value
  · have same : (first >>= next) s = _ := bind_error ran
    refine ⟨?_, ?_, ?_⟩ <;> rw [same]
    · exact state
    · rintro _ ⟨⟩
      exact error e rfl
    · nofun
  · obtain ⟨state', error', value'⟩ := tail a t state (value a rfl)
    have same : (first >>= next) s = _ := bind_ok ran
    refine ⟨?_, ?_, ?_⟩ <;> rw [same]
    · exact Transition.trans state state'
    · exact fun e failed => Hereditary.back state (error' e failed)
    · exact value'

omit [Transition R] in
/-- A look at the state goes on with that state. -/
theorem serves_get {next : σ → Op ε σ β} (tail : Serves (next s) R E Q s) :
    Serves ((get : Op ε σ σ) >>= next) R E Q s := by
  have same := get_bind next s
  refine ⟨?_, ?_, ?_⟩ <;> rw [same]
  · exact tail.state
  · exact tail.error
  · exact tail.value

omit [Transition R] in
theorem serves_emit_bind {event : LogEvent} {next : Unit → Op ε σ β} (tail : Serves (next ()) R E Q s) :
    Serves (emit event >>= next) R E Q s :=
  ⟨tail.state, tail.error, tail.value⟩

/-- A check comes before the rest, and its failure has to be excused. -/
theorem serves_ofExcept_bind [Hereditary R E] {r : Except ε α} {next : α → Op ε σ β}
    (excused : ∀ e, r = .error e → E s e) (tail : ∀ a, r = .ok a → Serves (next a) R E Q s) :
    Serves (ofExcept r >>= next) R E Q s := by
  cases r with
  | error e =>
    refine ⟨Transition.refl s, ?_, nofun⟩
    rintro _ ⟨⟩
    exact excused e rfl
  | ok a => exact ⟨(tail a rfl).state, (tail a rfl).error, (tail a rfl).value⟩

/-- What a change is followed by is judged from the changed state. -/
theorem serves_modify_bind [Hereditary R E] {change : σ → σ} {next : Unit → Op ε σ β}
    (allowed : R s (change s)) (tail : Serves (next ()) R E Q (change s)) :
    Serves (modify change >>= next) R E Q s :=
  ⟨Transition.trans allowed tail.state, fun e failed => Hereditary.back allowed (tail.error e failed),
    tail.value⟩

omit [Transition R] in
/-- A sequence whose second part cannot fail is judged as a whole. -/
theorem serves_whole {first : Op ε σ α} {next : α → Op ε σ β}
    (failed : ∀ e, (first s).result = .error e → R s (first s).state ∧ E s e)
    (succeeds : ∀ a, Succeeds (next a))
    (done : ∀ a t b u, Yields first s a t → Yields (next a) t b u → R s u ∧ Q b u) :
    Serves (first >>= next) R E Q s := by
  rcases ran : first s with ⟨e | a, t, log⟩
  · obtain ⟨state, error⟩ := failed e (by rw [ran])
    rw [ran] at state
    have same : (first >>= next) s = _ := bind_error ran
    refine ⟨?_, ?_, ?_⟩ <;> rw [same]
    · exact state
    · rintro _ ⟨⟩
      exact error
    · nofun
  · obtain ⟨b, succeeded⟩ := succeeds a t
    obtain ⟨state, value⟩ := done a t b _ ⟨by rw [ran], by rw [ran]⟩ ⟨succeeded, rfl⟩
    have same : (first >>= next) s = _ := bind_ok ran
    refine ⟨?_, ?_, ?_⟩ <;> rw [same]
    · exact state
    · intro e failed
      cases succeeded.symm.trans failed
    · intro b' result
      cases succeeded.symm.trans result
      exact value

end Steps

/-- To hand a failure on as a value needs no excuse. -/
theorem serves_attempt {op : Op ε σ α} {E' : σ → ε' → Prop} (serves : Serves op R E P s) :
    Serves (attempt op : Op ε' σ (Except ε α)) R E'
      (fun r t => (∀ e, r = .error e → E s e) ∧ ∀ a, r = .ok a → P a t) s := by
  refine ⟨serves.state, nofun, ?_⟩
  rintro r ⟨⟩
  exact ⟨serves.error, serves.value⟩

/-- A contract carries over to the errors that its errors become. -/
theorem serves_mapError {op : Op ε σ α} {convert : ε → ε'} {E' : σ → ε' → Prop}
    (serves : Serves op R E P s) (carried : ∀ e, E s e → E' s (convert e)) :
    Serves (mapError convert op) R E' P s := by
  obtain ⟨state, error, value⟩ := serves
  rcases ran : op s with ⟨e | a, t, log⟩ <;> rw [ran] at state error value
  · have same : mapError convert op s = ⟨.error (convert e), t, log⟩ := by simp only [mapError, ran]
    refine ⟨?_, ?_, ?_⟩ <;> rw [same]
    · exact state
    · rintro _ ⟨⟩
      exact carried e (error e rfl)
    · rintro _ ⟨⟩
  · have same : mapError convert op s = ⟨.ok a, t, log⟩ := by simp only [mapError, ran]
    refine ⟨?_, ?_, ?_⟩ <;> rw [same]
    · exact state
    · rintro _ ⟨⟩
    · rintro _ ⟨⟩
      exact value a rfl

/-- A contract on a part, as a contract on the whole. -/
theorem serves_onPart {op : Op ε τ α} {view : σ → τ} {update : τ → σ → σ} {R' : τ → τ → Prop}
    {F : τ → ε → Prop} {P' : α → τ → Prop} (serves : Serves op R' F P' (view s))
    (lift : ∀ part, R' (view s) part → R s (update part s)) (excused : ∀ e, F (view s) e → E s e)
    (holds : ∀ a part, P' a part → P a (update part s)) : Serves (onPart view update op) R E P s :=
  ⟨lift _ serves.state, fun e failed => excused e (serves.error e failed),
    fun a result => holds a _ (serves.value a result)⟩

end Serves
/-! ### Successes -/

/-- From a state on, the operation succeeds, with a result and a state that satisfy `P`. -/
def Reaches (op : Op ε σ α) (s : σ) (P : α → σ → Prop) : Prop :=
  ∃ a t, Yields op s a t ∧ P a t

/-- From a state on, the operation succeeds. -/
abbrev Goes (op : Op ε σ α) (s : σ) : Prop :=
  Reaches op s fun _ _ => True

section Reaches

variable {P : α → σ → Prop} {Q : β → σ → Prop} {s : σ}

/-- Two operations succeed in a row if the second succeeds from wherever the first has led. -/
theorem reaches_bind {first : Op ε σ α} {next : α → Op ε σ β} (head : Reaches first s P)
    (tail : ∀ a t, Yields first s a t → P a t → Reaches (next a) t Q) : Reaches (first >>= next) s Q := by
  obtain ⟨a, t, ran, holds⟩ := head
  obtain ⟨b, u, rest, holds'⟩ := tail a t ran holds
  exact ⟨b, u, yields_bind.2 ⟨a, t, ran, rest⟩, holds'⟩

/-- A first step that is known. -/
theorem reaches_after {first : Op ε σ α} {next : α → Op ε σ β} {a : α} {t : σ} (ran : Yields first s a t)
    (tail : Reaches (next a) t Q) : Reaches (first >>= next) s Q := by
  obtain ⟨b, u, rest, holds⟩ := tail
  exact ⟨b, u, yields_bind.2 ⟨a, t, ran, rest⟩, holds⟩

theorem reaches_pure {a : α} (holds : P a s) : Reaches (pure a : Op ε σ α) s P :=
  ⟨a, s, yields_pure.2 ⟨rfl, rfl⟩, holds⟩

/-- To succeed with a changed result is to succeed. -/
theorem reaches_map {op : Op ε σ α} {f : α → β} (head : Reaches op s fun a t => Q (f a) t) :
    Reaches (f <$> op) s Q := by
  obtain ⟨a, t, ran, holds⟩ := head
  exact ⟨f a, t, yields_map.2 ⟨a, ran, rfl⟩, holds⟩

/-- What reads the state succeeds if the rest does, with what was read. -/
theorem reaches_get {next : σ → Op ε σ β} (tail : Reaches (next s) s Q) :
    Reaches ((get : Op ε σ σ) >>= next) s Q :=
  reaches_after (yields_get.2 ⟨rfl, rfl⟩) tail

/-- A check that is known to pass is passed over. -/
theorem reaches_ofExcept_bind {r : Except ε α} {next : α → Op ε σ β} {a : α} (known : r = .ok a)
    (tail : Reaches (next a) s Q) : Reaches (ofExcept r >>= next) s Q :=
  reaches_after (yields_ofExcept.2 ⟨known, rfl⟩) tail

theorem reaches_modify_bind {change : σ → σ} {next : Unit → Op ε σ β}
    (tail : Reaches (next ()) (change s) Q) : Reaches ((modify change : Op ε σ Unit) >>= next) s Q :=
  reaches_after (yields_modify.2 rfl) tail

theorem reaches_emit_bind {event : LogEvent} {next : Unit → Op ε σ β} (tail : Reaches (next ()) s Q) :
    Reaches ((emit event : Op ε σ Unit) >>= next) s Q :=
  reaches_after (yields_emit.2 rfl) tail

/-- A choice succeeds if the branch taken does. -/
theorem reaches_ite {c : Prop} [Decidable c] {yes no : Op ε σ α} (left : c → Reaches yes s P)
    (right : ¬ c → Reaches no s P) : Reaches (if c then yes else no) s P := by
  split
  · next holds => exact left holds
  · next fails => exact right fails

/-- An operation that succeeds has no errors to change. -/
theorem reaches_mapError {op : Op ε σ α} {convert : ε → ε'} (head : Reaches op s P) :
    Reaches (mapError convert op) s P := by
  obtain ⟨a, t, ran, holds⟩ := head
  exact ⟨a, t, yields_mapError.2 ran, holds⟩

/-- Success on a part, as success on the whole. -/
theorem reaches_onPart {op : Op ε τ α} {view : σ → τ} {update : τ → σ → σ} {P' : α → τ → Prop}
    (head : Reaches op (view s) P') (lift : ∀ a part, P' a part → P a (update part s)) :
    Reaches (onPart view update op) s P := by
  obtain ⟨a, part, ran, holds⟩ := head
  exact ⟨a, _, yields_onPart.2 ⟨part, ran, rfl⟩, lift a part holds⟩

/-- A success may promise less. -/
theorem Reaches.weaken {op : Op ε σ α} {P' : α → σ → Prop} (head : Reaches op s P)
    (less : ∀ a t, P a t → P' a t) : Reaches op s P' := by
  obtain ⟨a, t, ran, holds⟩ := head
  exact ⟨a, t, ran, less a t holds⟩

end Reaches

end Offload.Op
