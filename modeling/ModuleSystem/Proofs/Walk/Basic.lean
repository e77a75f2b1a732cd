import ModuleSystem.Proofs.Scope.Basic
import ModuleSystem.Proofs.Walk.Action
import ModuleSystem.Proofs.Walk.Change
import ModuleSystem.Script.Run

/-! # Walks

Whatever scripts do, they do by a few changes of the world and by asking others. So it is walked through
their operations once, for every use: a walk says along which relation a session goes, what may be kept in
it, and which errors may end an action. It may also run a second session beside the first, which keeps other
variables of scripts. A walk is lawful if the changes go along the relation and if what comes up may be
kept. -/

namespace ModuleSystem

open ModuleSystem.Action (Flow Keeps Upholds)
open Value (Reference)

/-- A way to go along with a session and its twin: from which sessions on, along which relation, what may be
kept in a session, with which errors an action may fail or stop in it, and which errors may come up. -/
structure Walk where
  twin : Session → Session
  clean : Session → Prop
  moved : Session → Session → Prop
  near : Session → Reference → Prop
  fails : Session → Raised → Prop
  stops : Session → Raised → Prop
  admits : Fault → Prop

namespace Walk

/-- From a session and its twin on, two actions do the same along a walk, with values of one set. -/
abbrev Upheld {α : Type} (k : Walk) (first : Session) (V : Session → α → Prop)
    (x y : SessionAction α) : Prop :=
  Upholds k.twin k.clean k.moved first k.fails k.stops V x y

/-- From a session and its twin on, an action goes along a walk, with values of one set. -/
abbrev Orderly {α : Type} (k : Walk) (first : Session) (V : Session → α → Prop)
    (x : SessionAction α) : Prop :=
  k.Upheld first V x x

/-- A value keeps only what may be kept. -/
abbrev Only (k : Walk) (s : Session) (value : Value) : Prop := value.Within (k.near s)

/-- Some values keep only what may be kept. -/
abbrev All (k : Walk) (s : Session) (values : List Value) : Prop := ∀ value ∈ values, k.Only s value

/-- The keys and values of a mapping keep only what may be kept. -/
abbrev Entries (k : Walk) (s : Session) (entries : List (Value × Value)) : Prop :=
  ∀ entry ∈ entries, k.Only s entry.1 ∧ k.Only s entry.2

/-- An error may be kept. -/
abbrev Around (k : Walk) (s : Session) (raised : Raised) : Prop := k.near s (.error raised)

/-- A module that asks for others may be kept. -/
abbrev Asking (k : Walk) (s : Session) (parent : Option Nat) : Prop :=
  ∀ number, parent = some number → k.near s (.record number)

/-- Whatever may be kept may still be kept later on, and what is kept may be. An error ends an action as it
should if it may be kept, and only then. What comes up may be kept: errors that are not of the system, errors
that scripts make, and the cause of an error that may be kept, if it is asked for and nothing is known of it
yet. -/
class Lawful (k : Walk) : Prop extends Keeps k.clean k.moved where
  twin : k.twin = id ∨ ∃ scope, k.twin = Session.withScope scope
  near {s t : Session} {reference : Reference} (moved : k.moved s t) : k.near s reference → k.near t reference
  fails {s t : Session} {raised : Raised} (moved : k.moved s t) : k.fails s raised → k.fails t raised
  stops {s t : Session} {raised : Raised} (moved : k.moved s t) : k.stops s raised → k.stops t raised
  ends {s : Session} {raised : Raised} (around : k.Around s raised) :
    if raised.fault.isInterruption then k.stops s raised else k.fails s raised
  failed {s : Session} {raised : Raised} (fails : k.fails s raised) : k.Around s raised
  stopped {s : Session} {raised : Raised} (stops : k.stops s raised) : k.Around s raised
  within {s : Session} (clean : k.clean s) : s.rest.Within (k.near s)
  values {s : Session} {key : String} {value : Value} (clean : k.clean s)
    (known : s.cache.get? key = some (.resolved value)) : k.Only s value
  foreign {fault : Fault} (foreign : fault.Foreign) : k.admits fault
  admits {s : Session} {raised : Raised} (admits : k.admits raised.fault) : k.Around s raised
  change {s : Session} {world : World} (clean : k.clean s) (change : s.rest.Change (k.near s) world) :
    k.moved s ⟨s.cache, world⟩
  makes {s : Session} {fault : Fault} {cause : Option Raised} (clean : k.clean s) (made : fault.Made cause)
    (holds : ∀ raised, cause = some raised → k.Around s raised) :
    k.Around ⟨s.cache, s.rest.makeError fault cause⟩ ⟨s.rest.heap.marks, fault⟩
  causes {s : Session} {raised : Raised} {cause : Fault} (serial : Nat) (clean : k.clean s)
    (around : k.Around s raised) (caused : raised.fault.cause? = some cause)
    (unlinked : s.rest.heap.causes.lookup raised.serial = none) : k.Around s ⟨serial, cause⟩

/-- Along a lawful walk identifiers are resolved, too. -/
class Resolving (k : Walk) : Prop extends k.Lawful where
  resolve {first : Session} (raw : Value) (parent : Option Nat) :
    k.Orderly first (fun _ _ => True) (Session.resolve raw parent)

namespace moved

variable {k : Walk} [k.Lawful] {s t : Session}

theorem around (moved : k.moved s t) {raised : Raised} (around : k.Around s raised) : k.Around t raised :=
  Lawful.near moved around

theorem within (moved : k.moved s t) {value : Value} (only : k.Only s value) : k.Only t value :=
  only.mono fun _ => Lawful.near moved

theorem all (moved : k.moved s t) {values : List Value} (all : k.All s values) : k.All t values :=
  fun value member => within moved (all value member)

theorem entries (moved : k.moved s t) {entries : List (Value × Value)} (all : k.Entries s entries) :
    k.Entries t entries := fun entry member =>
  ⟨within moved (all entry member).1, within moved (all entry member).2⟩

theorem asking (moved : k.moved s t) {parent : Option Nat} (asking : k.Asking s parent) :
    k.Asking t parent := fun number same => Lawful.near moved (asking number same)

end moved

/-! ## The first actions -/

section

variable {k : Walk} [k.Lawful] {first : Session} {α β : Type} {V : Session → α → Prop}

/-- A value that may be kept when it is given may still be kept afterwards. -/
theorem give {value : Value} (only : k.Only first value) : k.Orderly first k.Only (Action.pure value) :=
  .done fun _ _ moved => moved.within only

/-- The twin of a session differs from it in the variables of scripts only. -/
theorem twin_eq (k : Walk) [k.Lawful] (s : Session) : ∃ scope, k.twin s = s.withScope scope := by
  rcases Lawful.twin (k := k) with same | ⟨scope, same⟩
  · exact ⟨s.rest.scope, by rw [same]; rfl⟩
  · exact ⟨scope, by rw [same]⟩

/-- An action that gives a value and makes a change, neither of which depends on the variables of scripts. -/
theorem step_orderly {x : SessionAction α} (value : World → α) (after : World → World)
    (ran : ∀ s : Session, x s = (.value (value s.rest), s.update after))
    (apart : ∀ (world : World) (scope : Option (Ordered Value)), value { world with scope } = value world ∧
      after { world with scope } = { after world with scope })
    (changes : ∀ t, k.clean t → k.moved first t → t.rest.Change (k.near t) (after t.rest))
    (holds : ∀ t, k.clean t → k.moved first t → k.moved t (t.update after) →
      V (t.update after) (value t.rest)) : k.Orderly first V x := by
  intro s clean reached
  have moved : k.moved s (s.update after) := Lawful.change clean (changes s clean reached)
  refine .of_ran (ran s) ?_ moved (holds s clean reached moved)
  rw [ran]
  rcases Lawful.twin (k := k) with same | ⟨scope, same⟩
  · rw [same]
    rfl
  · rw [same]
    obtain ⟨sameValue, sameAfter⟩ := apart s.rest scope
    change (Outcome.value (value { s.rest with scope }),
      (⟨s.cache, after { s.rest with scope }⟩ : Session)) = _
    rw [sameValue, sameAfter]
    rfl

theorem change_orderly {f : World → World}
    (swap : ∀ (world : World) (scope : Option (Ordered Value)),
      f { world with scope } = { f world with scope })
    (changes : ∀ t, k.clean t → k.moved first t → t.rest.Change (k.near t) (f t.rest)) :
    k.Orderly first (fun _ _ => True) (Session.change f) :=
  step_orderly (fun _ => ()) f (fun _ => rfl) (fun world scope => ⟨rfl, swap world scope⟩) changes
    fun _ _ _ _ => trivial

theorem get_bind {f : Session → SessionAction α}
    (same : ∀ (s : Session) (scope : Option (Ordered Value)), f (s.withScope scope) = f s)
    (next : ∀ t, k.clean t → k.moved first t → k.Orderly t V (f t)) :
    k.Orderly first V (Action.get >>= f) := by
  refine .get_bind (fun s => ?_) next
  obtain ⟨scope, twin⟩ := twin_eq k s
  rw [twin]
  exact same s scope

theorem world_bind {f : World → SessionAction α}
    (same : ∀ (world : World) (scope : Option (Ordered Value)), f { world with scope } = f world)
    (next : ∀ t, k.clean t → k.moved first t → k.Orderly t V (f t.rest)) :
    k.Orderly first V (Session.world >>= f) := by
  refine .gets_bind (fun s => ?_) next
  obtain ⟨scope, twin⟩ := twin_eq k s
  rw [twin]
  exact same s.rest scope

/-! ## Errors -/

/-- An error gets its mark. -/
theorem mark_orderly {fault : Fault}
    (around : ∀ t, k.clean t → k.moved first t → ∀ serial, k.Around t ⟨serial, fault⟩) :
    k.Orderly first k.Around (Session.mark fault) :=
  step_orderly (fun world => ⟨world.heap.marks, fault⟩)
    (fun world => { world with heap := world.heap.marked }) (fun _ => rfl) (fun _ _ => ⟨rfl, rfl⟩)
    (fun _ _ _ => .mark) fun t clean reached moved => moved.around (around t clean reached _)

theorem raiseAgain_orderly {raised : Raised} (around : k.Around first raised) :
    k.Orderly first V (Session.raiseAgain raised) := by
  have ends (t : Session) (moved : k.moved first t) := Lawful.ends (moved.around around)
  unfold Session.raiseAgain
  split
  · rename_i interrupts
    exact .interrupt fun t _ moved => by simpa [interrupts] using ends t moved
  · rename_i ordinary
    exact .fail fun t _ moved => by simpa [ordinary] using ends t moved

theorem raise_orderly {fault : Fault} (admits : k.admits fault) : k.Orderly first V (Session.raise fault) :=
  .bind (mark_orderly fun _ _ _ _ => Lawful.admits admits) fun _ _ _ around => raiseAgain_orderly around

theorem ofExcept_orderly {result : Except Fault α}
    (holds : ∀ a, result = .ok a → ∀ t, k.clean t → k.moved first t → V t a)
    (admits : ∀ fault, result = .error fault → k.admits fault) :
    k.Orderly first V (Session.ofExcept result) := by
  cases result with
  | ok a => exact .done (holds a rfl)
  | error fault => exact raise_orderly (admits fault rfl)

theorem ofDatum_orderly (datum : Datum) : k.Orderly first k.Only (Session.ofDatum datum) :=
  step_orderly (fun world => (Value.ofDatum world.heap datum).1)
    (fun world => { world with heap := (Value.ofDatum world.heap datum).2 }) (fun _ => rfl)
    (fun _ _ => ⟨rfl, rfl⟩) (fun _ _ _ => .data datum)
    fun _ clean _ moved => moved.within (Value.ofDatum_within (Lawful.within clean).heap datum).1

end

end Walk

end ModuleSystem
