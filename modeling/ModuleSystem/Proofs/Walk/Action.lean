import ModuleSystem.Proofs.Action

/-! # Actions with guarantees

Two actions run side by side, the second one from the twin of the state in which the first one starts. They
do the same and end in twin states, the first one moves along a preorder, and it ends with a value, with an
error or by an interruption that is as it should be in the state in which it ends. If they guarantee this
from all states of some set to which the preorder leads from a first state, so does what is put together
from them; the parts that follow need to do so only for the values and from the states in which the parts
before them end. Mostly every state is its own twin. -/

namespace ModuleSystem

/-- The value of an outcome belongs to one set, its error to another. -/
def Outcome.Meets {ε α : Type} (V : α → Prop) (E : ε → Prop) : Outcome ε α → Prop
  | .value a => V a
  | .error e => E e
  | .interruption e => E e

/-- The value of an outcome belongs to one set, its error to another, and what interrupts to a third. -/
def Outcome.Ends {ε α : Type} (V : α → Prop) (E I : ε → Prop) : Outcome ε α → Prop
  | .value a => V a
  | .error e => E e
  | .interruption e => I e

theorem Outcome.Ends.mono {ε α : Type} {V W : α → Prop} {E F I J : ε → Prop} {outcome : Outcome ε α}
    (ends : outcome.Ends V E I) (values : ∀ a, V a → W a) (errors : ∀ e, E e → F e)
    (interruptions : ∀ e, I e → J e) : outcome.Ends W F J := by
  cases outcome with
  | value a => exact values a ends
  | error e => exact errors e ends
  | interruption e => exact interruptions e ends

theorem Outcome.Ends.meets {ε α : Type} {V : α → Prop} {E : ε → Prop} {outcome : Outcome ε α}
    (ends : outcome.Ends V E E) : outcome.Meets V E := by
  cases outcome <;> exact ends

namespace Action

variable {σ τ ε α β : Type}

/-- From a state and its twin on, two actions do the same, move along the relation and end as they should. -/
structure UpholdsAt (twin : σ → σ) (R : σ → σ → Prop) (E I : σ → ε → Prop) (V : σ → α → Prop)
    (x y : Action σ ε α) (s : σ) : Prop where
  same : y (twin s) = ((x s).1, twin (x s).2)
  moved : R s (x s).2
  ends : (x s).1.Ends (V (x s).2) (E (x s).2) (I (x s).2)

/-- A preorder of states that does not leave a set of them. -/
class Keeps (K : σ → Prop) (R : σ → σ → Prop) : Prop extends Flow R where
  keeps {s t : σ} : R s t → K s → K t

/-- Two actions do the same and end as they should, from the states of a set to which the relation leads
from a first state, and from their twins. -/
def Upholds (twin : σ → σ) (K : σ → Prop) (R : σ → σ → Prop) (first : σ) (E I : σ → ε → Prop)
    (V : σ → α → Prop) (x y : Action σ ε α) : Prop :=
  ∀ s, K s → R first s → UpholdsAt twin R E I V x y s

/-- An action ends as it should, from the states of a set to which the relation leads from a first
state. -/
abbrev Ensures (K : σ → Prop) (R : σ → σ → Prop) (first : σ) (E I : σ → ε → Prop)
    (V : σ → α → Prop) (x : Action σ ε α) : Prop :=
  Upholds id K R first E I V x x

namespace UpholdsAt

variable {twin : σ → σ} {R : σ → σ → Prop} {E F I J : σ → ε → Prop} {V V' : σ → α → Prop}
  {W : σ → β → Prop} {x y : Action σ ε α} {s : σ}

theorem of_ran {t : σ} {outcome : Outcome ε α} (ran : x s = (outcome, t))
    (alsoRan : y (twin s) = (outcome, twin t)) (moved : R s t) (ends : outcome.Ends (V t) (E t) (I t)) :
    UpholdsAt twin R E I V x y s :=
  ⟨by rw [ran]; exact alsoRan, by rw [ran]; exact moved, by rw [ran]; exact ends⟩

theorem of_eq {z w : Action σ ε α} (upholds : UpholdsAt twin R E I V x y s) (first : z s = x s)
    (second : w (twin s) = y (twin s)) : UpholdsAt twin R E I V z w s := by
  obtain ⟨same, moved, ends⟩ := upholds
  rw [← first] at same moved ends
  exact ⟨second.trans same, moved, ends⟩

theorem agree (upholds : UpholdsAt id R E I V x y s) : x s = y s := upholds.same.symm

theorem ended {t : σ} {outcome : Outcome ε α} (upholds : UpholdsAt twin R E I V x y s)
    (ran : x s = (outcome, t)) : R s t ∧ outcome.Ends (V t) (E t) (I t) := by
  obtain ⟨_, moved, ends⟩ := upholds
  rw [ran] at moved ends
  exact ⟨moved, ends⟩

theorem alsoRan {t : σ} {outcome : Outcome ε α} (upholds : UpholdsAt twin R E I V x y s)
    (ran : x s = (outcome, t)) : y (twin s) = (outcome, twin t) := by
  rw [upholds.same, ran]

theorem mono (upholds : UpholdsAt twin R E I V x y s) (values : ∀ t a, V t a → V' t a)
    (errors : ∀ t e, E t e → F t e) (interruptions : ∀ t e, I t e → J t e) :
    UpholdsAt twin R F J V' x y s :=
  ⟨upholds.same, upholds.moved, upholds.ends.mono (values _) (errors _) (interruptions _)⟩

/-- Of an error it is known how the action came to it. -/
theorem errors (upholds : UpholdsAt twin R E I V x y s)
    (known : ∀ e t, x s = (.error e, t) → R s t → E t e → F t e) : UpholdsAt twin R F I V x y s := by
  obtain ⟨same, moved, ends⟩ := upholds
  refine ⟨same, moved, ?_⟩
  cases ran : x s with
  | mk outcome t =>
    rw [ran] at moved ends
    cases outcome with
    | value a => exact ends
    | error e => exact known e t ran moved ends
    | interruption e => exact ends

variable [Flow R]

/-- Actions that go on as others do from where the relation leads. -/
theorem onward {z w : Action σ ε α} {t : σ} (upholds : UpholdsAt twin R E I V x y t) (moved : R s t)
    (first : z s = x t) (second : w (twin s) = y (twin t)) : UpholdsAt twin R E I V z w s := by
  obtain ⟨same, later, ends⟩ := upholds
  rw [← first] at same later ends
  exact ⟨second.trans same, Flow.trans moved later, ends⟩

theorem bind {f g : α → Action σ ε β} (upholds : UpholdsAt twin R E I V x y s)
    (next : ∀ a t, x s = (.value a, t) → R s t → V t a → UpholdsAt twin R E I W (f a) (g a) t) :
    UpholdsAt twin R E I W (x >>= f) (y >>= g) s := by
  cases ran : x s with
  | mk outcome t =>
    obtain ⟨moved, ends⟩ := upholds.ended ran
    have alsoRan := upholds.alsoRan ran
    cases outcome with
    | value a =>
      refine (next a t ran moved ends).onward moved ?_ ?_
      · rw [bind_apply, ran]
      · rw [bind_apply, alsoRan]
    | error e =>
      have failed : (Outcome.error e : Outcome ε β).Ends (W t) (E t) (I t) := ends
      exact .of_ran (by rw [bind_apply, ran]) (by rw [bind_apply, alsoRan]) moved failed
    | interruption e =>
      have stopped : (Outcome.interruption e : Outcome ε β).Ends (W t) (E t) (I t) := ends
      exact .of_ran (by rw [bind_apply, ran]) (by rw [bind_apply, alsoRan]) moved stopped

/-- After an error another action goes on, which may end with other errors. -/
theorem handle {recover : ε → Action σ ε α} (upholds : UpholdsAt twin R E I V x y s)
    (recovers : ∀ e t, x s = (.error e, t) → R s t → E t e →
      UpholdsAt twin R F I V (recover e) (recover e) t) :
    UpholdsAt twin R F I V (Action.handle x recover) (Action.handle y recover) s := by
  cases ran : x s with
  | mk outcome t =>
    obtain ⟨moved, ends⟩ := upholds.ended ran
    have alsoRan := upholds.alsoRan ran
    cases outcome with
    | error e =>
      refine (recovers e t ran moved ends).onward moved ?_ ?_
      · rw [Action.handle, ran]
      · rw [Action.handle, alsoRan]
    | value a =>
      have valued : (Outcome.value a : Outcome ε α).Ends (V t) (F t) (I t) := ends
      exact .of_ran (by rw [Action.handle, ran]) (by rw [Action.handle, alsoRan]) moved valued
    | interruption e =>
      have stopped : (Outcome.interruption e : Outcome ε α).Ends (V t) (F t) (I t) := ends
      exact .of_ran (by rw [Action.handle, ran]) (by rw [Action.handle, alsoRan]) moved stopped

end UpholdsAt

namespace Upholds

variable {twin : σ → σ} {K : σ → Prop} {R : σ → σ → Prop} {first : σ} {E F I J : σ → ε → Prop}
  {V V' : σ → α → Prop} {W : σ → β → Prop} {x y : Action σ ε α}

theorem mono (upholds : Upholds twin K R first E I V x y) (values : ∀ t a, V t a → V' t a)
    (errors : ∀ t e, E t e → F t e) (interruptions : ∀ t e, I t e → J t e) :
    Upholds twin K R first F J V' x y :=
  fun s kept reached => (upholds s kept reached).mono values errors interruptions

/-- A change that can as well be made to the twin. -/
theorem modify_twin {f : σ → σ} {V : σ → Unit → Prop} (swap : ∀ s, f (twin s) = twin (f s))
    (step : ∀ s, K s → R first s → R s (f s)) (holds : ∀ s, K s → R first s → V (f s) ()) :
    Upholds twin K R first E I V (Action.modify f) (Action.modify f) :=
  fun s kept reached => ⟨congrArg (Prod.mk _) (swap s), step s kept reached, holds s kept reached⟩

theorem modify {f : σ → σ} {V : σ → Unit → Prop} (step : ∀ s, K s → R first s → R s (f s))
    (holds : ∀ s, K s → R first s → V (f s) ()) : Ensures K R first E I V (Action.modify f) :=
  modify_twin (fun _ => rfl) step holds

theorem attempt (upholds : Upholds twin K R first E I V x y) :
    Upholds twin K R first F J (fun t => Outcome.Ends (V t) (E t) (I t)) (Action.attempt x)
      (Action.attempt y) := fun s kept reached => by
  obtain ⟨same, moved, ends⟩ := upholds s kept reached
  exact ⟨by simp only [Action.attempt, same], moved, ends⟩

variable [Keeps K R]

/-- What holds wherever the relation leads from a state holds wherever it leads from a later one. -/
theorem later {next : σ} (upholds : Upholds twin K R first E I V x y) (reached : R first next) :
    Upholds twin K R next E I V x y := fun s kept onward => upholds s kept (Flow.trans reached onward)

theorem done {a : α} (holds : ∀ s, K s → R first s → V s a) :
    Upholds twin K R first E I V (Action.pure a) (Action.pure a) :=
  fun s kept reached => ⟨rfl, Flow.refl s, holds s kept reached⟩

theorem pure {a : α} (holds : ∀ s, K s → R first s → V s a) :
    Upholds twin K R first E I V (Pure.pure a) (Pure.pure a) := done holds

/-- Nothing is asked of the value. -/
theorem idle {a : α} :
    Upholds twin K R first E I (fun _ _ => True) (Action.pure a) (Action.pure a) :=
  done fun _ _ _ => trivial

theorem fail {e : ε} (holds : ∀ s, K s → R first s → E s e) :
    Upholds twin K R first E I V (Action.fail e) (Action.fail e) :=
  fun s kept reached => ⟨rfl, Flow.refl s, holds s kept reached⟩

theorem interrupt {e : ε} (holds : ∀ s, K s → R first s → I s e) :
    Upholds twin K R first E I V (Action.interrupt e) (Action.interrupt e) :=
  fun s kept reached => ⟨rfl, Flow.refl s, holds s kept reached⟩

theorem ofOutcome {outcome : Outcome ε α}
    (ends : ∀ s, K s → R first s → outcome.Ends (V s) (E s) (I s)) :
    Upholds twin K R first E I V (Action.ofOutcome outcome) (Action.ofOutcome outcome) :=
  fun s kept reached => ⟨rfl, Flow.refl s, ends s kept reached⟩

theorem gets {f : σ → α} (holds : ∀ s, K s → R first s → V s (f s)) :
    Ensures K R first E I V (Action.gets f) :=
  fun s kept reached => ⟨rfl, Flow.refl s, holds s kept reached⟩

theorem get : Ensures K R first E I (fun t s => s = t ∧ K t) Action.get :=
  fun s kept _ => ⟨rfl, Flow.refl s, rfl, kept⟩

theorem bind {f g : α → Action σ ε β} (upholds : Upholds twin K R first E I V x y)
    (next : ∀ a t, R first t → V t a → Upholds twin K R t E I W (f a) (g a)) :
    Upholds twin K R first E I W (x >>= f) (y >>= g) := fun s kept reached =>
  (upholds s kept reached).bind fun a t _ moved holds =>
    next a t (Flow.trans reached moved) holds t (Keeps.keeps moved kept) (Flow.refl t)

/-- What is read of a state may differ from what is read of its twin, if what follows does not depend on
that. -/
theorem gets_bind {γ : Type} {read : σ → γ} {f : γ → Action σ ε β}
    (same : ∀ s, f (read (twin s)) = f (read s))
    (next : ∀ t, K t → R first t → Upholds twin K R t E I W (f (read t)) (f (read t))) :
    Upholds twin K R first E I W (Action.gets read >>= f) (Action.gets read >>= f) :=
  fun s kept reached => (next s kept reached s kept (Flow.refl s)).of_eq rfl
    (congrFun (same s) (twin s))

theorem get_bind {f : σ → Action σ ε β} (same : ∀ s, f (twin s) = f s)
    (next : ∀ t, K t → R first t → Upholds twin K R t E I W (f t) (f t)) :
    Upholds twin K R first E I W (Action.get >>= f) (Action.get >>= f) := gets_bind same next

theorem handle {recover : ε → Action σ ε α} (upholds : Upholds twin K R first E I V x y)
    (recovers : ∀ e t, R first t → E t e → Upholds twin K R t F I V (recover e) (recover e)) :
    Upholds twin K R first F I V (Action.handle x recover) (Action.handle y recover) :=
  fun s kept reached => (upholds s kept reached).handle fun e t _ moved holds =>
    recovers e t (Flow.trans reached moved) holds t (Keeps.keeps moved kept) (Flow.refl t)

end Upholds

end Action

end ModuleSystem
