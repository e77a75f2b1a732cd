/-!
# Outcomes and actions

A computation ends in one of three ways: with a value, with an error that a caller may handle, or by
an interruption that only an outermost caller sees. An action is such a computation that also changes
a state; the changes it has made stay, however it ends.
-/

namespace ModuleSystem

/-- How a computation ends. -/
inductive Outcome (ε α : Type) where
  | value (a : α)
  | error (e : ε)
  | interruption (e : ε)
  deriving Repr

namespace Outcome

variable {ε α β : Type}

/-- Applies a function to the value of an outcome. -/
def map (f : α → β) : Outcome ε α → Outcome ε β
  | .value a => .value (f a)
  | .error e => .error e
  | .interruption e => .interruption e

/-- Applies a function to the error of an outcome. -/
def mapError {δ : Type} (f : ε → δ) : Outcome ε α → Outcome δ α
  | .value a => .value a
  | .error e => .error (f e)
  | .interruption e => .interruption (f e)

/-- The value of an outcome. -/
def value? : Outcome ε α → Option α
  | .value a => some a
  | _ => none

/-- The outcome with its value or with the error that ended it. -/
def toExcept : Outcome ε α → Except ε α
  | .value a => .ok a
  | .error e | .interruption e => .error e

end Outcome

/-- A computation on a state `σ` that ends with a value `α` or fails with an `ε`. -/
def Action (σ ε α : Type) : Type := σ → Outcome ε α × σ

namespace Action

variable {σ τ ε α β : Type}

/-- Does nothing and has a value. -/
def pure (a : α) : Action σ ε α := fun s => (.value a, s)

/-- Goes on with the value of an action; an error or an interruption ends both. -/
def bind (x : Action σ ε α) (f : α → Action σ ε β) : Action σ ε β := fun s =>
  match x s with
  | (.value a, s) => f a s
  | (.error e, s) => (.error e, s)
  | (.interruption e, s) => (.interruption e, s)

instance : Monad (Action σ ε) where
  pure := Action.pure
  bind := Action.bind

/-- Fails with an error. -/
def fail (e : ε) : Action σ ε α := fun s => (.error e, s)

/-- Ends by an interruption. -/
def interrupt (e : ε) : Action σ ε α := fun s => (.interruption e, s)

/-- The state. -/
def get : Action σ ε σ := fun s => (.value s, s)

/-- Changes the state. -/
def modify (f : σ → σ) : Action σ ε Unit := fun s => (.value (), f s)

/-- Reads something off the state. -/
def gets (f : σ → α) : Action σ ε α := fun s => (.value (f s), s)

/-- Has a given outcome. -/
def ofOutcome (outcome : Outcome ε α) : Action σ ε α := fun s => (outcome, s)

/-- Goes on after an error; an interruption goes through. -/
def handle (x : Action σ ε α) (recover : ε → Action σ ε α) : Action σ ε α := fun s =>
  match x s with
  | (.error e, s) => recover e s
  | result => result

/-- The outcome of an action as a value. -/
def attempt (x : Action σ ε α) : Action σ ε (Outcome ε α) := fun s =>
  let (outcome, s) := x s
  (.value outcome, s)

/-- Runs an action on a part of the state. -/
def within (part : τ → σ) (replace : τ → σ → τ) (x : Action σ ε α) : Action τ ε α := fun t =>
  let (outcome, s) := x (part t)
  (outcome, replace t s)

theorem pure_apply (a : α) (s : σ) : (Pure.pure a : Action σ ε α) s = (.value a, s) := rfl

theorem bind_apply (x : Action σ ε α) (f : α → Action σ ε β) (s : σ) :
    (x >>= f) s =
      match x s with
      | (.value a, s) => f a s
      | (.error e, s) => (.error e, s)
      | (.interruption e, s) => (.interruption e, s) := rfl

end Action

end ModuleSystem
