import ModuleSystem.Cache.Basic
import ModuleSystem.Fault.Text

/-!
# Load plans

A plan is a load given as data: it requests some keys first, and then raises an error or has a value.
The outcomes of its requests may be collected as its value. A plan is run on a state that keeps a
trace of the loads and the partial values it asks for.
-/

namespace ModuleSystem.Cache

/-- What the part of a pending entry does: it has a value or raises an error. -/
inductive Preview where
  | value (value : Datum)
  | error (fault : Fault)
  deriving Repr

mutual

/-- A load: the requests that it makes first, the error that it raises, whether it collects, and the
value that it has otherwise. -/
inductive Plan where
  | mk (first : List Request) (raises : Option Fault) (collects : Bool) (result : Datum)

/-- A request for a key, with the plan and the preview for its load, and whether its error is caught. -/
inductive Request where
  | mk (key : String) (plan : Plan) (preview : Option Preview) (catches : Bool)

end

/-- The key that is requested. -/
def Request.key : Request → String
  | .mk key _ _ _ => key

instance : Inhabited Plan := ⟨.mk [] none false .null⟩

instance : Inhabited Request := ⟨.mk "" default none false⟩

/-- What a plan changes beside the cache: a trace, and the number of errors made. -/
structure Trace where
  lines : List String
  made : Nat

/-- The state on which plans run. The part of an entry is its key with its preview. -/
abbrev PlanState := Held (String × Preview) Datum Raised Trace

/-- An action of a plan. -/
abbrev PlanAction (α : Type) := Action PlanState Raised α

namespace Plan

/-- Writes a line to the trace. -/
def trace (line : String) : PlanAction Unit :=
  Action.modify fun held => held.update fun rest => { rest with lines := rest.lines ++ [line] }

/-- Raises an error that has not been raised before. -/
def raise (fault : Fault) : PlanAction α := fun held =>
  let raised : Raised := ⟨held.rest.made, fault⟩
  let held := held.update fun rest => { rest with made := rest.made + 1 }
  if fault.isInterruption then (.interruption raised, held) else (.error raised, held)

/-- The surroundings of a cache on which plans run. -/
def hooks : Hooks (String × Preview) Datum Raised Trace where
  note _ rest := rest
  readPart part := do
    trace ("partial " ++ part.1)
    match part.2 with
    | .value value => return value
    | .error fault => raise fault
  noPart key := raise (.cyclicRequire (.text key))

/-- The name of the state of a key at this moment; an absent key has none. -/
def stateOf (key : String) : PlanAction Datum :=
  Action.gets fun held => ((held.cache.state? key).map fun state => .text state.name).getD .null

/-- What a caught error leaves: its kind, and the state of the key. -/
def caught (raised : Raised) (key : String) : PlanAction (List Datum) := do
  let state ← stateOf key
  return [.text ("caught " ++ raised.fault.kind), state]

mutual

/-- Runs a plan. -/
def run : Plan → PlanAction Datum
  | .mk first raises collects result => do
    let collected ← runAll first
    match raises with
    | some fault => raise fault
    | none => return if collects then .list collected else result

/-- Runs a request. -/
def runRequest : Request → PlanAction Datum
  | .mk key plan preview _ =>
    getOrLoad hooks key (preview.map (key, ·)) (do
      trace ("load " ++ key)
      run plan)

/-- Runs requests in order; each gives its result and then the state of its key. -/
def runAll : List Request → PlanAction (List Datum)
  | [] => Action.pure []
  | .mk key plan preview catches :: rest => do
    let outcome ← Action.attempt (runRequest (.mk key plan preview catches))
    let collected ←
      match outcome with
      | .value value => do
        let state ← stateOf key
        pure [value, state]
      | .error raised => if catches then caught raised key else Action.fail raised
      | .interruption raised => if catches then caught raised key else Action.interrupt raised
    let more ← runAll rest
    return collected ++ more

end

/-- Runs a request a number of times and collects the outcomes. -/
def repeatRequest (request : Request) : Nat → PlanAction (List (Outcome Raised Datum))
  | 0 => Action.pure []
  | times + 1 => do
    let outcome ← Action.attempt (runRequest request)
    let more ← repeatRequest request times
    return outcome :: more

end Plan

end ModuleSystem.Cache
