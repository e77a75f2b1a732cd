/-!
# Cache entries

An entry is pending while its value is being loaded, and then resolved with a value or failed with an
error. A settled entry stays as it is: `resolve` and `fail` refuse it. While it is pending an entry
may hold a part, from which an unfinished value can be had.
-/

namespace ModuleSystem.Cache

/-- The state of an entry. -/
inductive EntryState where
  | pending
  | resolved
  | failed
  deriving DecidableEq, Repr

/-- The name of a state. -/
def EntryState.name : EntryState → String
  | .pending => "pending"
  | .resolved => "resolved"
  | .failed => "failed"

/-- The name of a state in an error message. -/
def EntryState.label : EntryState → String
  | .pending => "EntryState.PENDING"
  | .resolved => "EntryState.RESOLVED"
  | .failed => "EntryState.FAILED"

/-- What a cache knows about a key. -/
inductive Entry (π α ε : Type) where
  | pending (part : Option π)
  | resolved (value : α)
  | failed (error : ε)
  deriving Repr

namespace Entry

variable {π α ε : Type}

/-- The state of an entry. -/
def state : Entry π α ε → EntryState
  | .pending _ => .pending
  | .resolved _ => .resolved
  | .failed _ => .failed

/-- The value of a resolved entry. -/
def value? : Entry π α ε → Option α
  | .resolved value => some value
  | _ => none

/-- The error of a failed entry. -/
def error? : Entry π α ε → Option ε
  | .failed error => some error
  | _ => none

/-- The part that a pending entry holds. -/
def part? : Entry π α ε → Option π
  | .pending part => part
  | _ => none

/-- Settles a pending entry with a value; another entry is refused with its state. -/
def resolve (entry : Entry π α ε) (value : α) : Except EntryState (Entry π α ε) :=
  match entry with
  | .pending _ => .ok (.resolved value)
  | settled => .error settled.state

/-- Settles a pending entry with an error; another entry is refused with its state. -/
def fail (entry : Entry π α ε) (error : ε) : Except EntryState (Entry π α ε) :=
  match entry with
  | .pending _ => .ok (.failed error)
  | settled => .error settled.state

end Entry

end ModuleSystem.Cache
