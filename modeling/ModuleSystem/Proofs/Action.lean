import ModuleSystem.Outcome

/-! # Actions along a relation

An action moves along a preorder of states if every state it starts in is related to the state in
which it ends, however it ends, and if errors end it as they should: those that interrupt a program by
an interruption, all others by a failure. Two actions agree on a set of states if there they do the same,
and move along the preorder. Both notions follow the way in which actions are put together, so a program
has them as soon as its parts do. -/

namespace ModuleSystem

/-- Errors of which some interrupt a program. -/
class Interrupting (ε : Type) where
  interrupts : ε → Prop

/-- States that remember errors. -/
class Remembering (σ ε : Type) where
  remembers : σ → ε → Prop

/-- Only an error that interrupts ends in an interruption, and only one that does not ends in a failure,
unless it is remembered in the state in which it ends. -/
def Outcome.Fair {σ ε α : Type} [Interrupting ε] [Remembering σ ε] (s : σ) : Outcome ε α → Prop
  | .value _ => True
  | .error e => ¬ Interrupting.interrupts e ∨ Remembering.remembers s e
  | .interruption e => Interrupting.interrupts e

theorem Outcome.value?_eq_some_iff {ε α : Type} {outcome : Outcome ε α} {a : α} :
    outcome.value? = some a ↔ outcome = .value a := by
  cases outcome <;> simp [Outcome.value?]

theorem Action.exists_of_value? {σ ε α : Type} {x : Action σ ε α} {s : σ} {a : α}
    (value : (x s).1.value? = some a) : ∃ t, x s = (.value a, t) :=
  ⟨(x s).2, Prod.ext (Outcome.value?_eq_some_iff.mp value) rfl⟩

/-- It does not matter how an action goes on that ends without a value. -/
theorem Action.bind_eq_of_unreached {σ ε α β : Type} {x : Action σ ε α} {s : σ} {f : α → Action σ ε β}
    (unreached : ∀ a, (x s).1 ≠ .value a) (g : α → Action σ ε β) : (x >>= f) s = (x >>= g) s := by
  rw [Action.bind_apply, Action.bind_apply]
  generalize x s = result at unreached
  obtain ⟨outcome, t⟩ := result
  cases outcome with
  | value a => exact absurd rfl (unreached a)
  | error | interruption => rfl

theorem Outcome.Fair.mono {σ τ ε α : Type} [Interrupting ε] [Remembering σ ε] [Remembering τ ε] {s : σ}
    {t : τ} {outcome : Outcome ε α} (fair : outcome.Fair s)
    (recalls : ∀ e : ε, Remembering.remembers s e → Remembering.remembers t e) : outcome.Fair t := by
  cases outcome with
  | value => trivial
  | error e => exact fair.imp_right (recalls e)
  | interruption => exact fair

namespace Action

variable {σ τ ε α β : Type}

/-- A preorder of states. -/
class Flow (R : σ → σ → Prop) : Prop where
  refl (s : σ) : R s s
  trans {s t u : σ} : R s t → R t u → R s u

instance (R : σ → σ → Prop) [Flow R] (part : τ → σ) : Flow (InvImage R part) where
  refl _ := Flow.refl (R := R) _
  trans first second := Flow.trans (R := R) first second

/-- Two actions in a row have a value only if each of them has one. -/
theorem bind_value {x : Action σ ε α} {f : α → Action σ ε β} {s : σ} {b : β}
    (value : ((x >>= f) s).1 = .value b) :
    ∃ a t, x s = (.value a, t) ∧ (f a t).1 = .value b := by
  rw [bind_apply] at value
  split at value
  · exact ⟨_, _, ‹_›, value⟩
  · cases value
  · cases value

variable [Interrupting ε] [Remembering σ ε]

/-- From a state on, two actions do the same. They move along the relation and end fairly. -/
structure AgreeAt (R : σ → σ → Prop) (x y : Action σ ε α) (s : σ) : Prop where
  same : x s = y s
  moved : R s (x s).2
  fair : (x s).1.Fair (x s).2

/-- On the states of `P` two actions do the same, move along the relation, and end fairly. -/
def Agree (P : σ → Prop) (R : σ → σ → Prop) (x y : Action σ ε α) : Prop :=
  ∀ s, P s → AgreeAt R x y s

/-- However the action ends, it ends fairly, and the relation leads from its first state to its last. -/
def Moves (R : σ → σ → Prop) (x : Action σ ε α) : Prop := ∀ s, AgreeAt R x x s

/-- A set of states that the relation does not leave. -/
def Closed (P : σ → Prop) (R : σ → σ → Prop) : Prop := ∀ ⦃s t⦄, P s → R s t → P t

namespace AgreeAt

variable {R : σ → σ → Prop} {x y : Action σ ε α} {s : σ}

theorem of_ran {t : σ} {outcome : Outcome ε α} (ran : x s = (outcome, t))
    (alsoRan : y s = (outcome, t)) (moved : R s t) (fair : outcome.Fair t) : AgreeAt R x y s :=
  ⟨ran.trans alsoRan.symm, by rw [ran]; exact moved, by rw [ran]; exact fair⟩

theorem of_eq {z w : Action σ ε α} (agree : AgreeAt R x y s) (first : z s = x s)
    (second : w s = y s) : AgreeAt R z w s := by
  obtain ⟨same, moved, fair⟩ := agree
  rw [← first] at same moved fair
  exact ⟨same.trans second.symm, moved, fair⟩

theorem ended {t : σ} {outcome : Outcome ε α} (agree : AgreeAt R x y s)
    (ran : x s = (outcome, t)) : R s t ∧ outcome.Fair t := by
  obtain ⟨_, moved, fair⟩ := agree
  rw [ran] at moved fair
  exact ⟨moved, fair⟩

variable [Flow R]

/-- Actions that go on as others do from where the relation leads. -/
theorem onward {z w : Action σ ε α} {t : σ} (agree : AgreeAt R x y t) (moved : R s t)
    (first : z s = x t) (second : w s = y t) : AgreeAt R z w s := by
  obtain ⟨same, onward, fair⟩ := agree
  rw [← first] at same onward fair
  exact ⟨same.trans second.symm, Flow.trans moved onward, fair⟩

/-- The second parts need to agree only where the first part ends. -/
theorem bind {f g : α → Action σ ε β} (first : AgreeAt R x y s)
    (next : ∀ a t, x s = (.value a, t) → AgreeAt R (f a) (g a) t) :
    AgreeAt R (x >>= f) (y >>= g) s := by
  cases ran : x s with
  | mk outcome t =>
    obtain ⟨moved, fair⟩ := first.ended ran
    have alsoRan : y s = (outcome, t) := first.same.symm.trans ran
    cases outcome with
    | value a =>
      obtain ⟨same, onward, fair⟩ := next a t ran
      exact .of_ran (by rw [bind_apply, ran]) (by rw [bind_apply, alsoRan]; exact same.symm)
        (Flow.trans moved onward) fair
    | error e =>
      exact .of_ran (by rw [bind_apply, ran]) (by rw [bind_apply, alsoRan]) moved fair
    | interruption e =>
      exact .of_ran (by rw [bind_apply, ran]) (by rw [bind_apply, alsoRan]) moved fair

theorem handle {recover : ε → Action σ ε α} (agree : AgreeAt R x y s)
    (recovers : ∀ e, Agree (Outcome.error (α := α) e).Fair R (recover e) (recover e)) :
    AgreeAt R (Action.handle x recover) (Action.handle y recover) s := by
  cases ran : x s with
  | mk outcome t =>
    obtain ⟨moved, fair⟩ := agree.ended ran
    have alsoRan : y s = (outcome, t) := agree.same.symm.trans ran
    cases outcome with
    | value a =>
      exact .of_ran (by rw [Action.handle, ran]) (by rw [Action.handle, alsoRan]) moved fair
    | error e =>
      obtain ⟨_, onward, fair⟩ := recovers e t fair
      exact .of_ran (by rw [Action.handle, ran]) (by rw [Action.handle, alsoRan])
        (Flow.trans moved onward) fair
    | interruption e =>
      exact .of_ran (by rw [Action.handle, ran]) (by rw [Action.handle, alsoRan]) moved fair

end AgreeAt

namespace Moves

variable {R : σ → σ → Prop} {x : Action σ ε α}

theorem agree {P : σ → Prop} (moves : Moves R x) : Agree P R x x := fun s _ => moves s

theorem ended {s t : σ} {outcome : Outcome ε α} (moves : Moves R x) (ran : x s = (outcome, t)) :
    R s t := ((moves s).ended ran).1

/-- The first of two actions in a row moves along the relation, and has a value if both have. -/
theorem bind_value {f : α → Action σ ε β} {s : σ} {b : β} (moves : Moves R x)
    (value : ((x >>= f) s).1 = .value b) :
    ∃ a t, x s = (.value a, t) ∧ R s t ∧ (f a t).1 = .value b := by
  obtain ⟨a, t, ran, value⟩ := Action.bind_value value
  exact ⟨a, t, ran, moves.ended ran, value⟩

theorem attempt (moves : Moves R x) : Moves R (Action.attempt x) :=
  fun s => ⟨rfl, (moves s).moved, trivial⟩

theorem modify {f : σ → σ} (step : ∀ s, R s (f s)) : Moves (ε := ε) R (Action.modify f) :=
  fun s => ⟨rfl, step s, trivial⟩

variable [Flow R]

theorem pure (a : α) : Moves (ε := ε) R (Pure.pure a) := fun s => ⟨rfl, Flow.refl s, trivial⟩

theorem done (a : α) : Moves (ε := ε) R (Action.pure a) := fun s => ⟨rfl, Flow.refl s, trivial⟩

theorem get : Moves (ε := ε) R Action.get := fun s => ⟨rfl, Flow.refl s, trivial⟩

theorem gets (f : σ → α) : Moves (ε := ε) R (Action.gets f) := fun s => ⟨rfl, Flow.refl s, trivial⟩

theorem fail {e : ε} (ordinary : ¬ Interrupting.interrupts e) : Moves (α := α) R (Action.fail e) :=
  fun s => ⟨rfl, Flow.refl s, .inl ordinary⟩

theorem interrupt {e : ε} (interrupts : Interrupting.interrupts e) :
    Moves (α := α) R (Action.interrupt e) := fun s => ⟨rfl, Flow.refl s, interrupts⟩

theorem bind {f : α → Action σ ε β} (first : Moves R x) (next : ∀ a, Moves R (f a)) :
    Moves R (x >>= f) := fun s => (first s).bind fun a t _ => next a t

/-- What follows on an attempt only has to deal with fair outcomes. -/
theorem attempt_bind {f : Outcome ε α → Action σ ε β} (first : Moves R x)
    (next : ∀ outcome, Agree outcome.Fair R (f outcome) (f outcome)) :
    Moves R (Action.attempt x >>= f) := by
  refine fun s => (first.attempt s).bind fun outcome t ran => next outcome t ?_
  cases ran
  exact (first s).fair

theorem handle {recover : ε → Action σ ε α} (moves : Moves R x)
    (recovers : ∀ e, Moves R (recover e)) : Moves R (Action.handle x recover) :=
  fun s => (moves s).handle fun e => (recovers e).agree

end Moves

namespace Agree

variable {P : σ → Prop} {R : σ → σ → Prop} {x y : Action σ ε α}

theorem mono {Q : σ → Prop} (agree : Agree P R x y) (sub : ∀ s, Q s → P s) : Agree Q R x y :=
  fun s member => agree s (sub s member)

theorem modify {f : σ → σ} (step : ∀ s, P s → R s (f s)) :
    Agree (ε := ε) P R (Action.modify f) (Action.modify f) :=
  fun s member => ⟨rfl, step s member, trivial⟩

/-- An action on a part of the state moves along the relation of the parts. What the part remembers, the
state has to remember. -/
theorem within [Remembering τ ε] {part : τ → σ} {replace : τ → σ → τ}
    (back : ∀ t s, part (replace t s) = s)
    (recalls : ∀ t (e : ε), Remembering.remembers (part t) e → Remembering.remembers t e)
    (agree : Agree P R x y) :
    Agree (fun t => P (part t)) (InvImage R part) (Action.within part replace x)
      (Action.within part replace y) := by
  intro t member
  obtain ⟨same, moved, fair⟩ := agree (part t) member
  have kept : part (replace t (x (part t)).2) = (x (part t)).2 := back ..
  refine ⟨by simp only [Action.within, same], ?_, ?_⟩
  · change R (part t) (part (replace t (x (part t)).2))
    rwa [kept]
  · rw [← kept] at fair
    exact fair.mono fun e => recalls _ e

variable [Flow R]

/-- The second parts need to agree only for the values that the first part can have. -/
theorem bind_of {f g : α → Action σ ε β} (closed : Closed P R) (first : Agree P R x y)
    (next : ∀ s a, P s → (x s).1 = .value a → Agree P R (f a) (g a)) :
    Agree P R (x >>= f) (y >>= g) := by
  intro s member
  refine (first s member).bind fun a t ran => ?_
  have moved := ((first s member).ended ran).1
  exact next s a member (by rw [ran]) t (closed member moved)

theorem bind {f g : α → Action σ ε β} (closed : Closed P R) (first : Agree P R x y)
    (next : ∀ a, Agree P R (f a) (g a)) : Agree P R (x >>= f) (y >>= g) :=
  bind_of closed first fun _ a _ _ => next a

theorem attempt_bind {f g : Outcome ε α → Action σ ε β} (closed : Closed P R) (first : Agree P R x y)
    (next : ∀ outcome, Agree (fun s => P s ∧ outcome.Fair s) R (f outcome) (g outcome)) :
    Agree P R (Action.attempt x >>= f) (Action.attempt y >>= g) := by
  intro s member
  obtain ⟨same, moved, fair⟩ := first s member
  have attempted : AgreeAt R (Action.attempt x) (Action.attempt y) s :=
    ⟨by simp only [Action.attempt, same], moved, trivial⟩
  refine attempted.bind fun outcome t ran => ?_
  cases ran
  exact next _ _ ⟨closed member moved, fair⟩

theorem ofOutcome {outcome : Outcome ε α} (fair : ∀ s, P s → outcome.Fair s) :
    Agree P R (Action.ofOutcome outcome) (Action.ofOutcome outcome) :=
  fun s member => ⟨rfl, Flow.refl s, fair s member⟩

theorem handle {recover : ε → Action σ ε α} (agree : Agree P R x y)
    (recovers : ∀ e, Agree (Outcome.error (α := α) e).Fair R (recover e) (recover e)) :
    Agree P R (Action.handle x recover) (Action.handle y recover) :=
  fun s member => (agree s member).handle recovers

end Agree

end Action

end ModuleSystem
