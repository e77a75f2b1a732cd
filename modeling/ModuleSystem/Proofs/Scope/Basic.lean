import ModuleSystem.Value.Equality
import ModuleSystem.Value.Text

/-! # The variables that a session keeps for scripts

Running a script takes the variables of scripts out of a session and puts them back at the end. In between
an action of the session can be run with other variables in their place: it does the same, and leaves them
as they are. Such an action is detached from the variables; what is put together from detached actions is
detached, too. -/

namespace ModuleSystem

namespace Action

variable {σ τ ε α β : Type} {f : σ → σ}

/-- After a change of the state an action does the same, and the change can as well be made at its end. -/
def Commutes (f : σ → σ) (x : Action σ ε α) : Prop := ∀ s, x (f s) = ((x s).1, f (x s).2)

namespace Commutes

theorem done (a : α) : Commutes (ε := ε) f (Action.pure a) := fun _ => rfl

theorem pure (a : α) : Commutes (ε := ε) f (Pure.pure a) := fun _ => rfl

theorem fail (e : ε) : Commutes (α := α) f (Action.fail e) := fun _ => rfl

theorem interrupt (e : ε) : Commutes (α := α) f (Action.interrupt e) := fun _ => rfl

theorem ofOutcome (outcome : Outcome ε α) : Commutes f (Action.ofOutcome outcome) := fun _ => rfl

theorem gets {g : σ → α} (same : ∀ s, g (f s) = g s) : Commutes (ε := ε) f (Action.gets g) :=
  fun s => by simp only [Action.gets, same]

theorem modify {g : σ → σ} (swap : ∀ s, g (f s) = f (g s)) : Commutes (ε := ε) f (Action.modify g) :=
  fun s => by simp only [Action.modify, swap]

theorem bind {x : Action σ ε α} {g : α → Action σ ε β} (first : Commutes f x)
    (next : ∀ a, Commutes f (g a)) : Commutes f (x >>= g) := by
  intro s
  simp only [bind_apply, first s]
  cases x s with
  | mk outcome t =>
    cases outcome with
    | value a => exact next a t
    | error e => rfl
    | interruption e => rfl

/-- What follows must not depend on the part of the state that changes. -/
theorem gets_bind {g : σ → β} {h : β → Action σ ε α} (same : ∀ s, h (g (f s)) = h (g s))
    (next : ∀ b, Commutes f (h b)) : Commutes f (Action.gets g >>= h) := fun s => by
  simp only [bind_apply, Action.gets, same]
  exact next (g s) s

theorem get_bind {h : σ → Action σ ε α} (same : ∀ s, h (f s) = h s) (next : ∀ s, Commutes f (h s)) :
    Commutes f (Action.get >>= h) := gets_bind (g := id) same next

theorem handle {x : Action σ ε α} {recover : ε → Action σ ε α} (first : Commutes f x)
    (recovers : ∀ e, Commutes f (recover e)) : Commutes f (Action.handle x recover) := by
  intro s
  simp only [Action.handle, first s]
  cases x s with
  | mk outcome t =>
    cases outcome with
    | value a => rfl
    | error e => exact recovers e t
    | interruption e => rfl

theorem attempt {x : Action σ ε α} (first : Commutes f x) : Commutes f (Action.attempt x) :=
  fun s => by simp only [Action.attempt, first s]

/-- An action on a part of the state commutes with changes of this part. -/
theorem within {part : τ → σ} {replace : τ → σ → τ} {g : τ → τ} {x : Action σ ε α}
    (inner : ∀ t, part (g t) = f (part t)) (outer : ∀ t s, replace (g t) (f s) = g (replace t s))
    (first : Commutes f x) : Commutes g (Action.within part replace x) := fun t => by
  simp only [Action.within, inner, first (part t), outer]

end Commutes

end Action

open ModuleSystem.Action (Commutes)

/-- A comparison does not depend on the variables of scripts. -/
theorem World.sight_withScope (world : World) (scope : Option (Ordered Value)) (depth : Nat) :
    World.sight { world with scope } depth = world.sight depth := by
  induction depth with
  | zero => rfl
  | succ depth ih =>
    simp only [sight, ih]
    rfl

theorem World.same_withScope (world : World) (scope : Option (Ordered Value)) :
    World.same { world with scope } = world.same := by
  funext a b
  exact congrArg (fun sight => Value.sameIn sight a b) (sight_withScope world scope _)

theorem World.lookup_withScope (world : World) (scope : Option (Ordered Value)) :
    World.lookup { world with scope } = world.lookup := by
  funext key entries
  simp only [lookup, same_withScope]

theorem World.foundAmong_withScope (world : World) (scope : Option (Ordered Value)) :
    World.foundAmong { world with scope } = world.foundAmong := by
  funext items value
  simp only [foundAmong, same_withScope]

theorem World.insert_withScope (world : World) (scope : Option (Ordered Value)) (key value : Value)
    (entries : List (Value × Value)) :
    World.insert { world with scope } key value entries = world.insert key value entries := by
  induction entries with
  | nil => rfl
  | cons entry rest ih => simp only [insert, same_withScope, ih]

theorem World.insertAll_withScope (world : World) (scope : Option (Ordered Value))
    (entries new : List (Value × Value)) :
    World.insertAll { world with scope } entries new = world.insertAll entries new := by
  induction new generalizing entries with
  | nil => rfl
  | cons entry rest ih => simp only [insertAll, insert_withScope, ih]

namespace Session

/-- A session with other variables of scripts. -/
def withScope (scope : Option (Ordered Value)) (session : Session) : Session :=
  session.update fun world => { world with scope }

/-- An action does not need the variables of scripts and leaves them alone. -/
abbrev Detached {α : Type} (scope : Option (Ordered Value)) (x : SessionAction α) : Prop :=
  Commutes (withScope scope) x

variable {scope : Option (Ordered Value)} {α : Type}

theorem change_detached {f : World → World}
    (swap : ∀ world : World, f { world with scope } = { f world with scope }) :
    Detached scope (change f) :=
  .modify fun s => congrArg (Cache.Held.mk s.cache) (swap s.rest)

theorem world_bind_detached {g : World → SessionAction α}
    (same : ∀ world : World, g { world with scope } = g world)
    (next : ∀ world, Detached scope (g world)) : Detached scope (world >>= g) :=
  .gets_bind (fun s => same s.rest) next

/-! ## Values as data -/

section

variable (session : Session) (view : ObjectView)

mutual

theorem toDatum_withScope : ∀ value : Value,
    value.toDatum (session.withScope scope) view = value.toDatum session view
  | .list _ items => congrArg Datum.list (toData_withScope items)
  | .tuple _ items => congrArg Datum.tuple (toData_withScope items)
  | .set _ items => congrArg Datum.set (toData_withScope items)
  | .dict _ entries => congrArg Datum.dict (toEntries_withScope entries)
  | .scalar _ | .exports _ | .record _ | .children _ | .require _ | .cache | .context | .state _ | .error _
  | .kind _ => rfl
  | .function f => by cases f <;> rfl

theorem toData_withScope : ∀ items : List Value,
    Value.toData (session.withScope scope) view items = Value.toData session view items
  | [] => rfl
  | value :: rest => by simp only [Value.toData, toDatum_withScope value, toData_withScope rest]

theorem toEntries_withScope : ∀ entries : List (Value × Value),
    Value.toEntries (session.withScope scope) view entries = Value.toEntries session view entries
  | [] => rfl
  | (key, value) :: rest => by
    simp only [Value.toEntries, toDatum_withScope key, toDatum_withScope value, toEntries_withScope rest]

end

end

theorem viewWithin_withScope (session : Session) (depth : Nat) (shown : List Nat) :
    (session.withScope scope).viewWithin depth shown = session.viewWithin depth shown := by
  induction depth generalizing shown with
  | zero => rfl
  | succ depth ih =>
    simp only [viewWithin, ih, toDatum_withScope]
    rfl

theorem datumOf_withScope (session : Session) :
    (session.withScope scope).datumOf = session.datumOf := by
  funext value
  rw [datumOf, toDatum_withScope, view, viewWithin_withScope]
  rfl

theorem reprOf_withScope (session : Session) (value : Value) :
    (session.withScope scope).reprOf value = session.reprOf value :=
  congrArg (fun shown => (shown value).repr) (datumOf_withScope session)

theorem plainOf_withScope (session : Session) (value : Value) :
    (session.withScope scope).plainOf value = session.plainOf value := by
  unfold plainOf
  split
  · rfl
  · rfl
  · rw [datumOf_withScope]

end Session

end ModuleSystem
