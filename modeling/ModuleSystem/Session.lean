import ModuleSystem.Report
import ModuleSystem.Require
import ModuleSystem.Settings

/-!
# Sessions

A session is set up from settings, and then runs files as main modules and scripts on variables that
last. An execution tells how such a run ended; only an interruption ends it otherwise.
-/

namespace ModuleSystem

/-- How a run ended: with a value or an error, and with which main module. -/
structure Execution where
  outcome : Except Raised Value
  main : Option Nat

/-- The report of an execution; one that ended with a value has none. -/
def Execution.report (execution : Execution) : String :=
  match execution.outcome with
  | .ok _ => ""
  | .error raised => Report.ofFault raised.fault

namespace Session

/-- The description of a session. -/
def text (session : Session) : String :=
  contextText session.rest.registry session.cache.size

/-- The description of the registry of a session. -/
def registryText (session : Session) : String :=
  session.rest.registry.text fun number => (loaderOf session.rest number).text

/-- Registers a loader for a protocol. -/
def register (protocol : Datum) (loader : Loader) : SessionAction Unit := do
  let world ← world
  let world ← ofExcept (world.register protocol loader)
  change fun _ => world

/-- Defines a builtin. The first definition of a name stays. -/
def define (name : String) (builtin : Builtin) : SessionAction Unit := do
  let world ← world
  if world.builtins.contains name then
    note runtimeSource ("builtin " ++ name ++ " already defined, ignoring")
  else change fun world => { world with builtins := world.builtins.set name builtin }

/-- The loader that settings ask for under a protocol. -/
def loaderFor? (workingDirectory : String) (settings : Settings) (protocol : String) :
    Option Loader :=
  if protocol = Identifier.fileProtocol then
    some (.ofBase workingDirectory (some settings.baseDirectory) settings.extensions)
  else if protocol = "http" ∨ protocol = "https" then
    some (.http protocol (.dict settings.http))
  else none

/-- Registers a loader for every protocol of settings. -/
def registerAll (settings : Settings) : List String → SessionAction Unit
  | [] => Action.pure ()
  | protocol :: rest => do
    let world ← world
    match loaderFor? world.host.files.workingDirectory settings protocol with
    | some loader => register (.text protocol) loader
    | none => Action.pure ()
    registerAll settings rest

/-- Sets up a session without modules from settings. -/
def configure (settings : Settings) : SessionAction Unit := do
  registerAll settings settings.protocols
  if !settings.modulePaths.isEmpty then
    change fun world => world.registerBare (some
      (.ofSearchPath world.host.files.workingDirectory settings.modulePaths settings.extensions))
  let session ← Action.get
  note runtimeSource ("created " ++ session.text)

/-- What an action amounts to as an execution. An interruption stays one. -/
def execute (action : SessionAction Value) (withMain : Bool) : SessionAction Execution := do
  let outcome ← Action.attempt action
  let world ← world
  let main := if withMain then world.main else none
  match outcome with
  | .value value => return ⟨.ok value, main⟩
  | .error raised => return ⟨.error raised, main⟩
  | .interruption raised => Action.interrupt raised

/-- Runs a file as the main module. -/
def runMain (path : String) : SessionAction Execution := execute (requireMain path) true

/-- The variables of scripts, which are made when they are first needed. -/
def scriptScope : SessionAction (Ordered Value) := do
  let current ← world
  match current.scope with
  | some scope => return scope
  | none => do
    let number ← newRecord "<script>" none none
    let exports ← exportsOf number
    let scope := Ordered.ofList
      [("__name__", .text "__main__"), ("module", .record number), ("exports", exports),
        ("require", .require none)]
    change fun world => { world with scope := some scope }
    return scope

/-- Runs an action on the variables of scripts. -/
def onScript {α : Type} (scope : Ordered Value) (action : Script.FrameAction α) :
    SessionAction α := fun session =>
  let (outcome, frame) := action ⟨scope, session⟩
  (outcome, frame.session.update fun world => { world with scope := some frame.scope })

/-- The value of a script: that of its expression if it is one, and null otherwise. -/
def evaluateSource (require : Script.Requirer) (source : Datum) : SessionAction Value := do
  let scope ← scriptScope
  let text ← scriptText source
  match Script.readExpression? text with
  | some e => onScript scope (Script.evaluate require e)
  | none => do
    let statements ← readStatements source
    onScript scope (Script.runSource require statements)
    return .null

/-- Runs a script on the variables that last. -/
def runScript (source : Datum) : SessionAction Execution := execute (evaluateSource require source) false

end Session

end ModuleSystem
