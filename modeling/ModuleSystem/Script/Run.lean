import ModuleSystem.Script.Basic
import ModuleSystem.Script.Operation

/-!
# Running scripts

A script runs on a scope of variables beside the session. What `require` does is a parameter. The
changes that a script has made stay when it fails. An error is handled by the first handler of its
kind; an interruption only by one that names it.
-/

namespace ModuleSystem.Script

/-- The variables of a script beside the session. -/
structure Frame where
  scope : Ordered Value
  session : Session

/-- What a script does. -/
abbrev FrameAction (α : Type) := Action Frame Raised α

/-- What `require` does for a module with an identifier. -/
abbrev Requirer := Option Nat → Value → SessionAction Value

namespace FrameAction

/-- An action on the session. -/
def onSession {α : Type} (action : SessionAction α) : FrameAction α :=
  Action.within Frame.session (fun frame session => { frame with session }) action

/-- Changes the variables. -/
def changeScope (f : Ordered Value → Ordered Value) : FrameAction Unit :=
  Action.modify fun frame => { frame with scope := f frame.scope }

end FrameAction

open FrameAction (onSession changeScope)

/-- The value of a variable, or else of a name that every script knows. -/
def readVariable (name : String) : FrameAction Value := do
  let frame ← Action.get
  match frame.scope.get? name with
  | some value => return value
  | none => onSession (commonName name)

/-- Calls a value. -/
def call (require : Requirer) (function : Value) (arguments : List Value) : SessionAction Value :=
  match function with
  | .require parent =>
    match arguments with
    | [identifier] => require parent identifier
    | _ => wrongCount "Require.__call__" ["name"] arguments.length
  | .function function => callFunction function arguments
  | .kind kind => callKind kind arguments
  | _ => mistake (.notCallable function.typeName)

mutual

/-- The value of an expression. Its parts are evaluated from left to right. -/
def evaluate (require : Requirer) : Expr → FrameAction Value
  | .literal s => Action.pure (.scalar s)
  | .name name => readVariable name
  | .list items => do
    let values ← evaluateAll require items
    onSession (newList values)
  | .tuple items => do
    let values ← evaluateAll require items
    onSession (newTuple values)
  | .dict entries => do
    let values ← evaluateEntries require entries
    onSession (newDict values)
  | .member object name => do
    let object ← evaluate require object
    onSession (member object name)
  | .item object key => do
    let object ← evaluate require object
    let key ← evaluate require key
    onSession (item object key)
  | .call function arguments => do
    let function ← evaluate require function
    let arguments ← evaluateAll require arguments
    onSession (call require function arguments)
  | .negative e => do
    let value ← evaluate require e
    onSession (negative value)
  | .sum left right => do
    let left ← evaluate require left
    let right ← evaluate require right
    onSession (sum left right)
  | .quotient left right => do
    let left ← evaluate require left
    let right ← evaluate require right
    onSession (quotient left right)
  | .identical left right => do
    let left ← evaluate require left
    let right ← evaluate require right
    let answer ← onSession (compared (left.identical right))
    return .bool answer
  | .contains item collection => do
    let item ← evaluate require item
    let collection ← evaluate require collection
    let answer ← onSession (contains item collection)
    return .bool answer

/-- The values of expressions, in order. -/
def evaluateAll (require : Requirer) : List Expr → FrameAction (List Value)
  | [] => Action.pure []
  | e :: rest => do
    let value ← evaluate require e
    let values ← evaluateAll require rest
    return value :: values

/-- The values of the entries of a mapping, key before value. -/
def evaluateEntries (require : Requirer) : List (Expr × Expr) → FrameAction (List (Value × Value))
  | [] => Action.pure []
  | (key, e) :: rest => do
    let key ← evaluate require key
    let value ← evaluate require e
    let values ← evaluateEntries require rest
    return (key, value) :: values

end

/-- Gives a variable a value. -/
def assignVariable (name : String) (value : Value) : FrameAction Unit :=
  changeScope fun scope => scope.set name value

/-- Stores a value. -/
def store (require : Requirer) (target : Target) (value : Value) : FrameAction Unit :=
  match target with
  | .name name => assignVariable name value
  | .member object name => do
    let object ← evaluate require object
    onSession (setMember object name value)

/-- Whether a handler with an optional kind handles an error. -/
def handles (require : Requirer) (kind : Option Expr) (fault : Fault) : FrameAction Bool :=
  match kind with
  | none => Action.pure true
  | some kind => do
    let value ← evaluate require kind
    onSession (matchesKind fault value)

/-- Runs the body of a handler with a name for the error, which is gone afterwards. -/
def withName (name : Option String) (raised : Raised) (body : FrameAction Unit) : FrameAction Unit :=
  match name with
  | none => body
  | some name => do
    assignVariable name (.error raised)
    let outcome ← Action.attempt body
    changeScope fun scope => scope.erase name
    Action.ofOutcome outcome

/-- The error that ended a body, if it may be handled at all. -/
def canHandle : Outcome Raised Unit → Option Raised
  | .value _ => none
  | .error raised => some raised
  | .interruption raised => if raised.fault.isNameable then some raised else none

mutual

/-- Runs a statement. -/
def run (require : Requirer) : Stmt → FrameAction Unit
  | .pass => Action.pure ()
  | .evaluate e => do
    let _ ← evaluate require e
    return ()
  | .assign target e => do
    let value ← evaluate require e
    store require target value
  | .raise e => do
    let value ← evaluate require e
    onSession (raiseValue value)
  | .attempt body handlers => do
    let outcome ← Action.attempt (runAll require body)
    match canHandle outcome with
    | none => Action.ofOutcome outcome
    | some raised => runHandlers require outcome raised handlers

/-- Runs statements in order. -/
def runAll (require : Requirer) : List Stmt → FrameAction Unit
  | [] => Action.pure ()
  | statement :: rest => do
    run require statement
    runAll require rest

/-- Runs the first handler that handles an error; without one the error stays. -/
def runHandlers (require : Requirer) (outcome : Outcome Raised Unit) (raised : Raised) :
    List Handler → FrameAction Unit
  | [] => Action.ofOutcome outcome
  | .mk kind name body :: rest => do
    let handled ← handles require kind raised.fault
    if handled then withName name raised (runAll require body)
    else runHandlers require outcome raised rest

end

/-- The text that the statements of a source begin with, if it stands alone. -/
def documentation? : List Stmt → Option String
  | .evaluate (.literal (.text text)) :: _ => some text
  | _ => none

/-- Runs the statements of a source. A text that they begin with is kept by a variable. -/
def runSource (require : Requirer) (body : List Stmt) : FrameAction Unit := do
  match documentation? body with
  | some text => assignVariable "__doc__" (.text text)
  | none => Action.pure ()
  runAll require body

/-- Runs an action on a scope, which is lost afterwards. -/
def inScope {α : Type} (scope : Ordered Value) (action : FrameAction α) : SessionAction α :=
  fun session =>
    let (outcome, frame) := action ⟨scope, session⟩
    (outcome, frame.session)

end ModuleSystem.Script
