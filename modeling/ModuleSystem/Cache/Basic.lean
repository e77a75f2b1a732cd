import ModuleSystem.Cache.Entry
import ModuleSystem.Ordered
import ModuleSystem.Outcome

/-!
# Loading through a cache

A cache maps keys to entries. `getOrLoad` answers from a settled entry, and loads a key that has none:
the entry is pending during the load and settled by its end, unless the load is interrupted, which
makes the key absent again. A request for a key that is being loaded gets the part that its entry
holds. The cache lives in a state beside other things that a load may change.
-/

namespace ModuleSystem

/-- A cache: keys in order of their first load, with their entries. -/
abbrev Cache (π α ε : Type) := Ordered (Cache.Entry π α ε)

namespace Cache

variable {π α ε ρ : Type}

/-- The state of a key. -/
def state? (cache : Cache π α ε) (key : String) : Option EntryState :=
  (cache.get? key).map Entry.state

/-- The value of a key that is resolved. -/
def peek? (cache : Cache π α ε) (key : String) : Option α := (cache.get? key).bind Entry.value?

/-- The keys with their states, in order. -/
def states (cache : Cache π α ε) : List (String × EntryState) :=
  cache.entries.map fun entry => (entry.1, entry.2.state)

/-- A cache beside the rest of a state. -/
structure Held (π α ε ρ : Type) where
  cache : Cache π α ε
  rest : ρ

namespace Held

/-- Changes the rest of a state. -/
def update (held : Held π α ε ρ) (f : ρ → ρ) : Held π α ε ρ := { held with rest := f held.rest }

/-- Sets the entry of a key. -/
def put (held : Held π α ε ρ) (key : String) (entry : Entry π α ε) : Held π α ε ρ :=
  { held with cache := held.cache.set key entry }

/-- Makes a key absent. -/
def drop (held : Held π α ε ρ) (key : String) : Held π α ε ρ :=
  { held with cache := held.cache.erase key }

end Held

/-- What happens to a request for a key: it is answered from a settled entry, from the part of a
pending one or not at all, or it starts a load, which ends in one of three ways. -/
inductive Event (π α ε : Type) where
  | hit (key : String)
  | failureHit (key : String)
  | cycle (key : String) (part : π)
  | deadEnd (key : String)
  | load (key : String) (part : Option π)
  | resolve (key : String) (value : α)
  | fail (key : String) (error : ε)
  | interrupt (key : String) (error : ε)
  deriving Repr

/-- What a cache needs from its surroundings: a record of events, the unfinished value that a part
gives, and the answer to a request in a cycle that finds no part. -/
structure Hooks (π α ε ρ : Type) where
  note : Event π α ε → ρ → ρ
  readPart : π → Action (Held π α ε ρ) ε α
  noPart : String → Action (Held π α ε ρ) ε α

/-- Starts a load: the key is pending from here on. -/
def start (hooks : Hooks π α ε ρ) (key : String) (part : Option π) (held : Held π α ε ρ) :
    Held π α ε ρ :=
  (held.put key (.pending part)).update (hooks.note (.load key part))

/-- Settles a key with the outcome of its load. -/
def settle (hooks : Hooks π α ε ρ) (key : String) :
    Outcome ε α × Held π α ε ρ → Outcome ε α × Held π α ε ρ
  | (.value value, held) =>
    (.value value, (held.put key (.resolved value)).update (hooks.note (.resolve key value)))
  | (.error error, held) =>
    (.error error, (held.put key (.failed error)).update (hooks.note (.fail key error)))
  | (.interruption error, held) =>
    (.interruption error, (held.drop key).update (hooks.note (.interrupt key error)))

/-- The value of a key: from its entry, or from a load if it has none. -/
def getOrLoad (hooks : Hooks π α ε ρ) (key : String) (part : Option π)
    (load : Action (Held π α ε ρ) ε α) : Action (Held π α ε ρ) ε α := fun held =>
  match held.cache.get? key with
  | some (.resolved value) => (.value value, held.update (hooks.note (.hit key)))
  | some (.failed error) => (.error error, held.update (hooks.note (.failureHit key)))
  | some (.pending none) => hooks.noPart key (held.update (hooks.note (.deadEnd key)))
  | some (.pending (some part)) => hooks.readPart part (held.update (hooks.note (.cycle key part)))
  | none => settle hooks key (load (start hooks key part held))

/-- The entry that a load leaves; it leaves none if it is interrupted. -/
def left? : Outcome ε α → Option (Entry π α ε)
  | .value value => some (.resolved value)
  | .error error => some (.failed error)
  | .interruption _ => none

theorem settle_fst (hooks : Hooks π α ε ρ) (key : String) (outcome : Outcome ε α)
    (held : Held π α ε ρ) : (settle hooks key (outcome, held)).1 = outcome := by
  cases outcome <;> rfl

theorem get?_start (hooks : Hooks π α ε ρ) (key other : String) (part : Option π)
    (held : Held π α ε ρ) :
    (start hooks key part held).cache.get? other =
      if other = key then some (.pending part) else held.cache.get? other := Ordered.get?_set ..

theorem get?_settle (hooks : Hooks π α ε ρ) (key other : String) (outcome : Outcome ε α)
    (held : Held π α ε ρ) :
    (settle hooks key (outcome, held)).2.cache.get? other =
      if other = key then left? outcome else held.cache.get? other := by
  cases outcome with
  | value value => exact Ordered.get?_set ..
  | error error => exact Ordered.get?_set ..
  | interruption error => exact Ordered.get?_erase ..

theorem getOrLoad_of_resolved (hooks : Hooks π α ε ρ) {key : String} (part : Option π)
    (load : Action (Held π α ε ρ) ε α) {held : Held π α ε ρ} {value : α}
    (known : held.cache.get? key = some (.resolved value)) :
    getOrLoad hooks key part load held = (.value value, held.update (hooks.note (.hit key))) := by
  simp [getOrLoad, known]

theorem getOrLoad_of_failed (hooks : Hooks π α ε ρ) {key : String} (part : Option π)
    (load : Action (Held π α ε ρ) ε α) {held : Held π α ε ρ} {error : ε}
    (known : held.cache.get? key = some (.failed error)) :
    getOrLoad hooks key part load held =
      (.error error, held.update (hooks.note (.failureHit key))) := by
  simp [getOrLoad, known]

theorem getOrLoad_of_absent (hooks : Hooks π α ε ρ) {key : String} (part : Option π)
    (load : Action (Held π α ε ρ) ε α) {held : Held π α ε ρ}
    (absent : held.cache.get? key = none) :
    getOrLoad hooks key part load held = settle hooks key (load (start hooks key part held)) := by
  simp [getOrLoad, absent]

/-- A key that is absent before a request has the entry afterwards that its load leaves. -/
theorem get?_getOrLoad (hooks : Hooks π α ε ρ) {key : String} (part : Option π)
    (load : Action (Held π α ε ρ) ε α) {held : Held π α ε ρ} (absent : held.cache.get? key = none) :
    (getOrLoad hooks key part load held).2.cache.get? key =
      left? (getOrLoad hooks key part load held).1 := by
  rw [getOrLoad_of_absent _ _ _ absent]
  generalize load (start hooks key part held) = ended
  rw [get?_settle, if_pos rfl, settle_fst]

theorem getOrLoad_of_partless (hooks : Hooks π α ε ρ) {key : String} (part : Option π)
    (load : Action (Held π α ε ρ) ε α) {held : Held π α ε ρ}
    (known : held.cache.get? key = some (.pending none)) :
    getOrLoad hooks key part load held =
      hooks.noPart key (held.update (hooks.note (.deadEnd key))) := by
  simp [getOrLoad, known]

theorem getOrLoad_of_pending (hooks : Hooks π α ε ρ) {key : String} (part : Option π)
    (load : Action (Held π α ε ρ) ε α) {held : Held π α ε ρ} {lent : π}
    (known : held.cache.get? key = some (.pending (some lent))) :
    getOrLoad hooks key part load held =
      hooks.readPart lent (held.update (hooks.note (.cycle key lent))) := by
  simp [getOrLoad, known]

end Cache

end ModuleSystem
