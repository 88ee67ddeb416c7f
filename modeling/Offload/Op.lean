import Offload.Log

/-!
Operations on a state. An operation may fail, and a failure keeps the state as it was left, so that
what happened before the failure is not undone. Log events are output: they cannot influence what
an operation does.
-/
namespace Offload

/-- What an operation leaves behind. -/
structure Outcome (ε σ α : Type) where
  result : Except ε α
  state : σ
  log : Log := []

/-- An operation on states `σ` that returns an `α` or fails with an `ε`. -/
def Op (ε σ α : Type) : Type :=
  σ → Outcome ε σ α

namespace Op

variable {ε ε' σ τ α β : Type}

def run (op : Op ε σ α) (state : σ) : Outcome ε σ α :=
  op state

/-- Do the first operation; when it succeeds, go on with the second from the state it left. -/
def andThen (first : Op ε σ α) (next : α → Op ε σ β) : Op ε σ β := fun state =>
  match first state with
  | ⟨.error e, state', log⟩ => ⟨.error e, state', log⟩
  | ⟨.ok a, state', log⟩ =>
    match next a state' with
    | ⟨result, state'', log'⟩ => ⟨result, state'', log ++ log'⟩

instance : Monad (Op ε σ) where
  pure a := fun state => ⟨.ok a, state, []⟩
  bind := andThen

def fail (error : ε) : Op ε σ α := fun state =>
  ⟨.error error, state, []⟩

def get : Op ε σ σ := fun state =>
  ⟨.ok state, state, []⟩

/-- A view of the state. -/
def gets (view : σ → α) : Op ε σ α := fun state =>
  ⟨.ok (view state), state, []⟩

def modify (change : σ → σ) : Op ε σ Unit := fun state =>
  ⟨.ok (), change state, []⟩

def emit (event : LogEvent) : Op ε σ Unit := fun state =>
  ⟨.ok (), state, [event]⟩

def ofExcept : Except ε α → Op ε σ α
  | .error e => fail e
  | .ok a => pure a

/-- Replace the state by a new one unless the step fails. -/
def step (transition : σ → Except ε (α × σ)) : Op ε σ α := fun state =>
  match transition state with
  | .error e => ⟨.error e, state, []⟩
  | .ok (a, state') => ⟨.ok a, state', []⟩

/-- Hand the result on as a value, failure included. -/
def attempt (op : Op ε σ α) : Op ε' σ (Except ε α) := fun state =>
  match op state with
  | ⟨result, state', log⟩ => ⟨.ok result, state', log⟩

def mapError (convert : ε → ε') (op : Op ε σ α) : Op ε' σ α := fun state =>
  match op state with
  | ⟨.error e, state', log⟩ => ⟨.error (convert e), state', log⟩
  | ⟨.ok a, state', log⟩ => ⟨.ok a, state', log⟩

/-- Do an operation `times` times and keep the last result, or `last` when there is none. A failure
comes with the number of successes, counted from `done`, before it. -/
def repeated (op : Op ε σ α) : (times done : Nat) → (last : α) → Op (Nat × ε) σ α
  | 0, _, last => pure last
  | times + 1, done, _ => do
    let result ← op.mapError (done, ·)
    repeated op times (done + 1) result

/-- Work on a part of a larger state. -/
def onPart (view : τ → σ) (update : σ → τ → τ) (op : Op ε σ α) : Op ε τ α := fun state =>
  match op (view state) with
  | ⟨result, part, log⟩ => ⟨result, update part state, log⟩

@[simp] theorem pure_run (a : α) (state : σ) :
    (pure a : Op ε σ α) state = ⟨.ok a, state, []⟩ := rfl

theorem bind_ok {first : Op ε σ α} {next : α → Op ε σ β} {state state' : σ} {a : α} {log : Log}
    (h : first state = ⟨.ok a, state', log⟩) :
    (first >>= next) state =
      ⟨(next a state').result, (next a state').state, log ++ (next a state').log⟩ := by
  show andThen first next state = _
  simp [andThen, h]

theorem bind_error {first : Op ε σ α} {next : α → Op ε σ β} {state state' : σ} {e : ε} {log : Log}
    (h : first state = ⟨.error e, state', log⟩) :
    (first >>= next) state = ⟨.error e, state', log⟩ := by
  show andThen first next state = _
  simp [andThen, h]

end Op
end Offload
