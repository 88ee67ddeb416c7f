import Offload.Op

/-! Reasoning about operations. A success is inverted step by step with `Yields`; `Moves` carries a
preorder of states through an operation, failures included; `Agrees` compares two runs from related
states. Log events are output and have no part in any of the three. -/
namespace Offload.Op

variable {ε ε' σ τ α β γ : Type}

/-- The operation succeeds with `a` and leaves `after`. -/
def Yields (op : Op ε σ α) (before : σ) (a : α) (after : σ) : Prop :=
  (op before).result = .ok a ∧ (op before).state = after

/-- Every outcome of the operation, a failure included, is related to where it started. -/
def Moves (op : Op ε σ α) (R : σ → σ → Prop) : Prop :=
  ∀ before, R before (op before).state

/-- From related states the operation has the same result and leaves related states. -/
def Agrees (op : Op ε σ α) (R : σ → σ → Prop) : Prop :=
  ∀ s t, R s t → (op s).result = (op t).result ∧ R (op s).state (op t).state

/-- A failure leaves everything as it was. -/
def Refuses (op : Op ε σ α) : Prop :=
  ∀ s e, (op s).result = .error e → (op s).state = s

def Succeeds (op : Op ε σ α) : Prop :=
  ∀ s, ∃ a, (op s).result = .ok a

/-- What an invariant along a run asks of a relation between its states. -/
class Transition (R : σ → σ → Prop) : Prop where
  refl : ∀ s, R s s
  trans : ∀ {s t u}, R s t → R t u → R s u

/-! ### Sequencing -/

/-- What two operations in a row leave behind: what the second one does, unless the first one fails. -/
theorem bind_run (first : Op ε σ α) (next : α → Op ε σ β) (s : σ) :
    (first >>= next) s = match first s with
      | ⟨.error e, s', log⟩ => ⟨.error e, s', log⟩
      | ⟨.ok a, s', log⟩ => ⟨(next a s').result, (next a s').state, log ++ (next a s').log⟩ := rfl

/-- How operations in a row are grouped does not matter. -/
theorem bind_assoc (first : Op ε σ α) (next : α → Op ε σ β) (last : β → Op ε σ γ) :
    ((first >>= next) >>= last) = (first >>= fun a => next a >>= last) := by
  funext s
  simp only [bind_run]
  rcases first s with ⟨e | a, s', log⟩
  · rfl
  · simp only
    rcases next a s' with ⟨e | b, s'', log'⟩
    · rfl
    · simp [List.append_assoc]

theorem pure_bind (a : α) (next : α → Op ε σ β) : ((pure a : Op ε σ α) >>= next) = next a := by
  funext s
  simp [bind_run]

/-- To give the result on as it is adds nothing. -/
theorem bind_pure (op : Op ε σ α) : (op >>= fun a => (pure a : Op ε σ α)) = op := by
  funext s
  rw [bind_run]
  rcases op s with ⟨e | a, s', log⟩ <;> simp

/-- A look at the state goes on with that state. -/
theorem get_bind (next : σ → Op ε σ α) (s : σ) : ((get : Op ε σ σ) >>= next) s = next s s := rfl

theorem map_eq_bind (f : α → β) (op : Op ε σ α) :
    (f <$> op) = (op >>= fun a => (pure (f a) : Op ε σ β)) := rfl

/-- A change of the result leaves the state to the operation. -/
theorem map_state (f : α → β) (op : Op ε σ α) (s : σ) : ((f <$> op) s).state = (op s).state := by
  rw [map_eq_bind, bind_run]
  rcases op s with ⟨e | a, s', log⟩ <;> rfl

/-- A change of the error leaves the state to the operation. -/
theorem mapError_state (convert : ε → ε') (op : Op ε σ α) (s : σ) :
    (mapError convert op s).state = (op s).state := by
  unfold mapError
  rcases op s with ⟨e | a, t, log⟩ <;> rfl

/-! ### Successes -/

section Yields

variable {s t : σ} {a : α} {b : β}

/-- A success as a computation. -/
def success? (op : Op ε σ α) (s : σ) : Option (α × σ) :=
  match op s with
  | ⟨.ok a, t, _⟩ => some (a, t)
  | ⟨.error _, _, _⟩ => none

/-- An operation yields what its successful run computes. -/
theorem yields_iff_success? {op : Op ε σ α} : Yields op s a t ↔ success? op s = some (a, t) := by
  unfold Yields success?
  rcases op s with ⟨e | a', t', log⟩ <;> simp

/-- A failure as a computation. -/
def failure? (op : Op ε σ α) (s : σ) : Option ε :=
  match op s with
  | ⟨.ok _, _, _⟩ => none
  | ⟨.error e, _, _⟩ => some e

/-- An operation fails with the error that its failing run computes. -/
theorem failed_iff_failure? {op : Op ε σ α} {e : ε} : (op s).result = .error e ↔ failure? op s = some e := by
  unfold failure?
  rcases op s with ⟨e' | a', t', log⟩ <;> simp

/-- Two operations yield what the second one yields from where the first one has led. -/
@[simp] theorem yields_bind {first : Op ε σ α} {next : α → Op ε σ β} :
    Yields (first >>= next) s b t ↔ ∃ a u, Yields first s a u ∧ Yields (next a) u b t := by
  simp only [Yields, bind_run]
  rcases first s with ⟨e | a, u, log⟩
  · simp
  · constructor
    · rintro ⟨result, state⟩
      exact ⟨a, u, ⟨rfl, rfl⟩, result, state⟩
    · rintro ⟨a', u', ⟨same, rfl⟩, result, state⟩
      cases same
      exact ⟨result, state⟩

/-- A sequence ends as its second part does once the first one has succeeded. -/
theorem bind_of_yields {first : Op ε σ α} {next : α → Op ε σ β} (ran : Yields first s a t) :
    ((first >>= next) s).result = (next a t).result ∧ ((first >>= next) s).state = (next a t).state := by
  obtain ⟨result, rfl⟩ := ran
  rw [bind_run]
  rcases began : first s with ⟨e | a', t, log⟩ <;> rw [began] at result <;> cases result
  exact ⟨rfl, rfl⟩

/-- A sequence whose first part fails ends there. -/
theorem bind_of_failed {first : Op ε σ α} {next : α → Op ε σ β} {e : ε} (failed : (first s).result = .error e) :
    ((first >>= next) s).result = .error e ∧ ((first >>= next) s).state = (first s).state := by
  rw [bind_run]
  rcases ran : first s with ⟨e' | a, t, log⟩ <;> rw [ran] at failed <;> cases failed
  exact ⟨rfl, rfl⟩

/-- A sequence fails in its first part or in its second. -/
theorem bind_failed {first : Op ε σ α} {next : α → Op ε σ β} {e : ε}
    (failed : ((first >>= next) s).result = .error e) :
    (first s).result = .error e ∨ ∃ a t, Yields first s a t ∧ (next a t).result = .error e := by
  rcases ran : (first s).result with e' | a
  · rw [(bind_of_failed ran).1] at failed
    cases failed
    exact .inl rfl
  · have began : Yields first s a (first s).state := ⟨ran, rfl⟩
    rw [(bind_of_yields began).1] at failed
    exact .inr ⟨a, _, began, failed⟩

/-- Two sequences are the same from a state on, if their parts are where it matters. -/
theorem bind_congr_at {first first' : Op ε σ α} {next next' : α → Op ε σ β} (head : first s = first' s)
    (tail : ∀ a t, Yields first s a t → next a t = next' a t) :
    (first >>= next) s = (first' >>= next') s := by
  rw [bind_run, bind_run, ← head]
  rcases ran : first s with ⟨e | a, t, log⟩
  · rfl
  · have yields : Yields first s a t := by
      rw [Yields, ran]
      exact ⟨rfl, rfl⟩
    simp only [tail a t yields]

@[simp] theorem yields_pure {a' : α} : Yields (pure a' : Op ε σ α) s a t ↔ a' = a ∧ s = t := by
  simp [Yields]

@[simp] theorem yields_map {f : α → β} {op : Op ε σ α} :
    Yields (f <$> op) s b t ↔ ∃ a, Yields op s a t ∧ f a = b := by
  simp only [map_eq_bind, yields_bind, yields_pure]
  constructor
  · rintro ⟨a, u, ran, same, rfl⟩
    exact ⟨a, ran, same⟩
  · rintro ⟨a, ran, same⟩
    exact ⟨a, t, ran, same, rfl⟩

@[simp] theorem yields_get {u : σ} : Yields (get : Op ε σ σ) s u t ↔ s = u ∧ s = t := by
  simp [Yields, get]

@[simp] theorem yields_gets {view : σ → α} : Yields (gets view : Op ε σ α) s a t ↔ view s = a ∧ s = t := by
  simp [Yields, gets]

@[simp] theorem yields_modify {change : σ → σ} {u : Unit} :
    Yields (modify change : Op ε σ Unit) s u t ↔ change s = t := by
  simp [Yields, modify]

@[simp] theorem yields_emit {event : LogEvent} {u : Unit} :
    Yields (emit event : Op ε σ Unit) s u t ↔ s = t := by
  simp [Yields, emit]

@[simp] theorem yields_fail {e : ε} : ¬ Yields (fail e : Op ε σ α) s a t := by
  simp [Yields, fail]

@[simp] theorem yields_ofExcept {r : Except ε α} :
    Yields (ofExcept r : Op ε σ α) s a t ↔ r = .ok a ∧ s = t := by
  cases r <;> simp [Yields, ofExcept, fail]

/-- A step yields what its transition does. -/
@[simp] theorem yields_step {transition : σ → Except ε (α × σ)} :
    Yields (step transition) s a t ↔ transition s = .ok (a, t) := by
  simp only [Yields, step]
  rcases transition s with e | ⟨a', t'⟩ <;> simp

/-- An attempt always succeeds; its result tells how the operation ended. -/
@[simp] theorem yields_attempt {op : Op ε σ α} {r : Except ε α} :
    Yields (attempt op : Op ε' σ (Except ε α)) s r t ↔ (op s).result = r ∧ (op s).state = t := by
  simp [Yields, attempt]

@[simp] theorem yields_mapError {convert : ε → ε'} {op : Op ε σ α} :
    Yields (mapError convert op) s a t ↔ Yields op s a t := by
  simp only [Yields, mapError]
  rcases op s with ⟨e | a', s', log⟩ <;> simp

/-- An operation on a part yields what it yields there, and the part is put back. -/
@[simp] theorem yields_onPart {view : τ → σ} {update : σ → τ → τ} {op : Op ε σ α} {x y : τ} :
    Yields (onPart view update op) x a y ↔ ∃ u, Yields op (view x) a u ∧ update u x = y := by
  simp [Yields, onPart, and_assoc]

end Yields

/-! ### Preorders along an operation -/

section Moves

variable {R : σ → σ → Prop} [Transition R]

omit [Transition R] in
/-- A run that succeeds is one of the runs that move by `R`. -/
theorem Moves.yields {op : Op ε σ α} {s t : σ} {a : α} (h : Moves op R) (ran : Yields op s a t) :
    R s t := by
  rw [← ran.2]
  exact h s

theorem moves_pure (a : α) : Moves (pure a : Op ε σ α) R := fun s => Transition.refl s

theorem moves_get : Moves (get : Op ε σ σ) R := fun s => Transition.refl s

theorem moves_emit (event : LogEvent) : Moves (emit event : Op ε σ Unit) R :=
  fun s => Transition.refl s

theorem moves_fail (e : ε) : Moves (fail e : Op ε σ α) R := fun s => Transition.refl s

theorem moves_ofExcept (r : Except ε α) : Moves (ofExcept r : Op ε σ α) R := by
  cases r with
  | error e => exact moves_fail e
  | ok a => exact moves_pure a

omit [Transition R] in
/-- A change moves by what it does to each state. -/
theorem moves_modify {change : σ → σ} (step : ∀ s, R s (change s)) :
    Moves (modify change : Op ε σ Unit) R := step

/-- From one state on, it is enough to judge the second operation where the first one left off. -/
theorem related_bind {first : Op ε σ α} {next : α → Op ε σ β} {s : σ} (head : R s (first s).state)
    (tail : ∀ a, R (first s).state (next a (first s).state).state) :
    R s ((first >>= next) s).state := by
  rw [bind_run]
  rcases ran : first s with ⟨e | a, s', log⟩ <;> rw [ran] at head tail
  · exact head
  · exact Transition.trans head (tail a)

/-- What an operation leaves is related to what its first part left. -/
theorem related_rest {first : Op ε σ α} {next : α → Op ε σ β} (rest : ∀ a, Moves (next a) R) (s : σ) :
    R (first s).state ((first >>= next) s).state := by
  rw [bind_run]
  rcases first s with ⟨e | a, t, log⟩
  · exact Transition.refl t
  · exact rest a t

/-- What both halves move by, the whole moves by, since moves compose. -/
theorem moves_bind {first : Op ε σ α} {next : α → Op ε σ β} (head : Moves first R)
    (tail : ∀ a, Moves (next a) R) : Moves (first >>= next) R :=
  fun s => related_bind (head s) fun a => tail a _

theorem moves_map {f : α → β} {op : Op ε σ α} (h : Moves op R) : Moves (f <$> op) R :=
  moves_bind h fun a => moves_pure (f a)

omit [Transition R] in
theorem moves_ite {c : Prop} [Decidable c] {yes no : Op ε σ α} (left : Moves yes R)
    (right : Moves no R) : Moves (if c then yes else no) R := by
  split
  · exact left
  · exact right

/-- A step that fails stays; so only the transition has to be looked at. -/
theorem moves_step {transition : σ → Except ε (α × σ)}
    (h : ∀ s a t, transition s = .ok (a, t) → R s t) : Moves (step transition) R := by
  intro s
  simp only [step]
  rcases ran : transition s with e | ⟨a, t⟩
  · exact Transition.refl s
  · exact h s a t ran

omit [Transition R] in
theorem moves_attempt {op : Op ε σ α} (h : Moves op R) :
    Moves (attempt op : Op ε' σ (Except ε α)) R := h

omit [Transition R] in
theorem moves_mapError {convert : ε → ε'} {op : Op ε σ α} (h : Moves op R) :
    Moves (mapError convert op) R := by
  intro s
  have start := h s
  simp only [mapError]
  rcases ran : op s with ⟨e | a, s', log⟩ <;> rw [ran] at start <;> exact start

omit [Transition R] in
/-- A move of the part is a move of the whole as `lift` says. -/
theorem moves_onPart {view : τ → σ} {update : σ → τ → τ} {op : Op ε σ α} {Q : τ → τ → Prop}
    (h : Moves op R) (lift : ∀ x part, R (view x) part → Q x (update part x)) :
    Moves (onPart view update op) Q := fun x => lift x _ (h (view x))

end Moves

/-! ### All or nothing -/

section Refuses

/-- What only looks at the state is a special case of a move. -/
instance : Transition (@Eq σ) where
  refl _ := rfl
  trans := Eq.trans

/-- What never changes the state leaves it when it fails. -/
theorem refuses_of_readOnly {op : Op ε σ α} (h : Moves op Eq) : Refuses op :=
  fun s _ _ => (h s).symm

/-- A step that fails has changed nothing. -/
theorem refuses_step (transition : σ → Except ε (α × σ)) : Refuses (step transition) := by
  intro s e failed
  simp only [step] at failed ⊢
  rcases ran : transition s with _ | ⟨a, t⟩
  · rfl
  · rw [ran] at failed
    cases failed

/-- Behind a reading operation only the rest can change the state. -/
theorem refuses_readOnly_bind {first : Op ε σ α} {next : α → Op ε σ β} (head : Moves first Eq)
    (tail : ∀ a, Refuses (next a)) : Refuses (first >>= next) := by
  intro s e failed
  have same := head s
  rw [bind_run] at failed ⊢
  rcases ran : first s with ⟨e' | a, s', log⟩ <;> rw [ran] at same failed <;> cases same
  · rfl
  · exact tail a s' e failed

/-- Where only the first half can fail, it decides. -/
theorem refuses_bind_succeeds {first : Op ε σ α} {next : α → Op ε σ β} (head : Refuses first)
    (tail : ∀ a, Succeeds (next a)) : Refuses (first >>= next) := by
  intro s e failed
  have unchanged := head s e
  rw [bind_run] at failed ⊢
  rcases ran : first s with ⟨e' | a, s', log⟩ <;> rw [ran] at failed unchanged
  · cases failed
    exact unchanged rfl
  · obtain ⟨b, succeeded⟩ := tail a s'
    simp only [succeeded] at failed
    cases failed

theorem refuses_mapError {convert : ε → ε'} {op : Op ε σ α} (h : Refuses op) :
    Refuses (mapError convert op) := by
  intro s e failed
  have unchanged := h s
  simp only [mapError] at failed ⊢
  rcases ran : op s with ⟨e' | a, s', log⟩ <;> rw [ran] at unchanged failed
  · exact unchanged e' rfl
  · cases failed

/-- A failure on a part keeps the whole, if an unchanged part put back changes nothing. -/
theorem refuses_onPart {view : τ → σ} {update : σ → τ → τ} {op : Op ε σ α} (h : Refuses op)
    (lens : ∀ x, update (view x) x = x) : Refuses (onPart view update op) := by
  intro x e failed
  show update (op (view x)).state x = x
  rw [h (view x) e failed, lens]

theorem succeeds_pure (a : α) : Succeeds (pure a : Op ε σ α) := fun _ => ⟨a, rfl⟩

theorem succeeds_modify (change : σ → σ) : Succeeds (modify change : Op ε σ Unit) :=
  fun _ => ⟨(), rfl⟩

theorem succeeds_emit (event : LogEvent) : Succeeds (emit event : Op ε σ Unit) := fun _ => ⟨(), rfl⟩

/-- Two operations that cannot fail cannot fail in a row. -/
theorem succeeds_bind {first : Op ε σ α} {next : α → Op ε σ β} (head : Succeeds first)
    (tail : ∀ a, Succeeds (next a)) : Succeeds (first >>= next) := by
  intro s
  obtain ⟨a, succeeded⟩ := head s
  obtain ⟨b, finished⟩ := tail a (first s).state
  refine ⟨b, ?_⟩
  rw [bind_run]
  rcases ran : first s with ⟨e | a', s', log⟩ <;> rw [ran] at succeeded finished <;>
    cases succeeded
  exact finished

end Refuses

/-! ### Two runs -/

section Agrees

variable {R : σ → σ → Prop}

theorem agree_pure (a : α) : Agrees (pure a : Op ε σ α) R := fun _ _ same => ⟨rfl, same⟩

theorem agree_emit (event : LogEvent) : Agrees (emit event : Op ε σ Unit) R :=
  fun _ _ same => ⟨rfl, same⟩

theorem agree_fail (e : ε) : Agrees (fail e : Op ε σ α) R := fun _ _ same => ⟨rfl, same⟩

theorem agree_ofExcept (r : Except ε α) : Agrees (ofExcept r : Op ε σ α) R := by
  cases r with
  | error e => exact agree_fail e
  | ok a => exact agree_pure a

/-- A change agrees with itself on states that it keeps alike. -/
theorem agree_modify {change : σ → σ} (h : ∀ s t, R s t → R (change s) (change t)) :
    Agrees (modify change : Op ε σ Unit) R := fun s t same => ⟨rfl, h s t same⟩

/-- From one pair of states on, it is enough to judge the second operation where the first one left
off. -/
theorem agreeing_bind {first : Op ε σ α} {next : α → Op ε σ β} {s t : σ}
    (results : (first s).result = (first t).result) (states : R (first s).state (first t).state)
    (tail : ∀ a, (first s).result = .ok a →
      (next a (first s).state).result = (next a (first t).state).result ∧
        R (next a (first s).state).state (next a (first t).state).state) :
    ((first >>= next) s).result = ((first >>= next) t).result ∧
      R ((first >>= next) s).state ((first >>= next) t).state := by
  simp only [bind_run]
  rcases ran : first s with ⟨e | a, s', log⟩ <;> rcases ran' : first t with ⟨e' | a', t', log'⟩ <;>
    rw [ran, ran'] at results states tail <;> cases results
  · exact ⟨rfl, states⟩
  · exact tail a rfl

/-- Operations that go alike from like states go alike in a row. -/
theorem agree_bind {first : Op ε σ α} {next : α → Op ε σ β} (head : Agrees first R)
    (tail : ∀ a, Agrees (next a) R) : Agrees (first >>= next) R := by
  intro s t same
  obtain ⟨results, states⟩ := head s t same
  exact agreeing_bind results states fun a _ => tail a _ _ states

theorem agree_map {f : α → β} {op : Op ε σ α} (h : Agrees op R) : Agrees (f <$> op) R :=
  agree_bind h fun a => agree_pure (f a)

theorem agree_ite {c : Prop} [Decidable c] {yes no : Op ε σ α} (left : Agrees yes R)
    (right : Agrees no R) : Agrees (if c then yes else no) R := by
  split
  · exact left
  · exact right

/-- An operation may look at what related states have in common. -/
theorem agree_get_bind {next : σ → Op ε σ α} (visible : ∀ s t, R s t → next s = next t)
    (tail : ∀ s, Agrees (next s) R) : Agrees (get >>= next) R := by
  intro s t same
  show (next s s).result = (next t t).result ∧ R (next s s).state (next t t).state
  rw [visible s t same]
  exact tail t s t same

/-- An attempt goes alike, since both runs fail or neither does. -/
theorem agree_attempt {op : Op ε σ α} (h : Agrees op R) :
    Agrees (attempt op : Op ε' σ (Except ε α)) R := by
  intro s t same
  obtain ⟨result, state⟩ := h s t same
  exact ⟨congrArg Except.ok result, state⟩

theorem agree_mapError {convert : ε → ε'} {op : Op ε σ α} (h : Agrees op R) :
    Agrees (mapError convert op) R := by
  intro s t same
  have both := h s t same
  simp only [mapError]
  rcases ran : op s with ⟨e | a, s', log⟩ <;> rcases ran' : op t with ⟨e' | a', t', log'⟩ <;>
    rw [ran, ran'] at both <;> obtain ⟨result, state⟩ := both <;> cases result <;> exact ⟨rfl, state⟩

/-- Alike on the parts is alike on the whole, as `narrow` and `lift` say. -/
theorem agree_onPart {Q : τ → τ → Prop} {view : τ → σ} {update : σ → τ → τ} {op : Op ε σ α}
    (h : Agrees op R) (narrow : ∀ x y, Q x y → R (view x) (view y))
    (lift : ∀ x y part part', Q x y → R part part' → Q (update part x) (update part' y)) :
    Agrees (onPart view update op) Q := by
  intro x y same
  obtain ⟨result, state⟩ := h _ _ (narrow x y same)
  exact ⟨result, lift x y _ _ same state⟩

end Agrees
end Offload.Op
