import ModuleSystem.CommandLine.Arguments
import ModuleSystem.Session

/-!
# The program on a command line

The program runs a script as the main module, or holds a dialogue in which each line is a script on
variables that last. It writes values to its output, and reports among its errors. The dialogue is an
action on one line after another, so that it can be run on lines as they come.
-/

namespace ModuleSystem.CommandLine

/-- A session beside what the program has written to its output and among its errors. -/
structure Terminal where
  session : Session
  output : String
  errors : String

/-- What the program does. -/
abbrev TerminalAction (α : Type) := Action Terminal Fault α

/-- How the arguments of the program are used. -/
def usage : String := "usage: modreq-run [-h] [--config CONFIG] [-v] [script]\n"

/-- The help of the program. -/
def helpText : String :=
  usage ++
    "\n" ++
    "Run a script with require() support\n" ++
    "\n" ++
    "positional arguments:\n" ++
    "  script           Script to run as the main module; omit for a REPL\n" ++
    "\n" ++
    "options:\n" ++
    "  -h, --help       show this help message and exit\n" ++
    "  --config CONFIG  JSON, YAML or TOML runtime config\n" ++
    "  -v, --verbose    Debug logging\n"

/-- What the program writes when a dialogue begins. -/
def banner : String := "modreq REPL v0.1\nType 'exit' or press Ctrl+D to quit.\n"

/-- What stands before each line of a dialogue. -/
def promptText : String := ">> "

/-- What the program writes when its input ends, or when it is interrupted. -/
def farewell : String := "\nExiting.\n"

/-- The line that ends a dialogue. -/
def exitWord : String := "exit"

namespace Terminal

/-- A terminal on which nothing has been written. -/
def ofHost (host : Host) : Terminal := ⟨.empty host, "", ""⟩

/-- Writes a text to the output. -/
def write (text : String) : TerminalAction Unit :=
  Action.modify fun terminal => { terminal with output := terminal.output ++ text }

/-- Writes a text among the errors. -/
def complain (text : String) : TerminalAction Unit :=
  Action.modify fun terminal => { terminal with errors := terminal.errors ++ text }

/-- An action on the session. -/
def onSession {α : Type} (action : SessionAction α) : TerminalAction α := fun terminal =>
  let (outcome, session) := action terminal.session
  (outcome.mapError Raised.fault, { terminal with session })

/-- The value of a computation that may fail. -/
def ofExcept {α : Type} : Except Fault α → TerminalAction α
  | .ok a => Action.pure a
  | .error fault => Action.fail fault

/-- The files that the program works with. -/
def files : TerminalAction FileTree := Action.gets fun terminal => terminal.session.rest.host.files

end Terminal

open Terminal (write complain onSession ofExcept files)

/-- Shows how an execution ended, and tells whether it succeeded. -/
def showExecution (execution : Execution) : TerminalAction Bool := do
  match execution.outcome with
  | .error _ =>
    complain (execution.report ++ "\n")
    return false
  | .ok value => do
    if !value.isNull then
      let terminal ← Action.get
      write (terminal.session.layoutOf value ++ "\n")
    return true

/-- Whether a name is that of a file. A name that is too long for the system is an error. -/
def isFile (name : PathName) : TerminalAction Bool := do
  let files ← files
  if FileTree.hasNul name.text then return false
  match files.find name.text with
  | .error .nameTooLong => Action.fail (.file .nameTooLong name.text)
  | _ => return files.isFile name.text

/-! ## Scripts -/

/-- The settings for a script without a file of settings: modules are looked for where it lies. -/
def settingsBeside (tree : FileTree) (homes : Path.Homes) (name : PathName) : Except Fault Settings :=
  Settings.ofDatum tree.workingDirectory ⟨tree.workingDirectory, homes⟩
    (.dict [(.text "base-dir", .text (name.parent.resolve tree.workingDirectory))])

/-- Runs a file as the main module, and gives the status of the program. -/
def runFile (homes : Path.Homes) (script : String) (config : Option String) : TerminalAction Nat := do
  let name := PathName.ofText script
  let present ← isFile name
  if !present then
    complain ("Error: file not found: " ++ script ++ "\n")
    return 1
  let files ← files
  let settings ← ofExcept <|
    match config with
    | some config => Settings.ofFile files homes config
    | none => settingsBeside files homes name
  onSession (Session.configure settings)
  let execution ← onSession (Session.runMain name.text)
  let succeeded ← showExecution execution
  return if succeeded then 0 else 1

/-! ## Dialogues -/

/-- Begins a dialogue. -/
def beginDialogue (homes : Path.Homes) (config : Option String) : TerminalAction Unit := do
  write banner
  let files ← files
  let settings ← ofExcept <|
    match config with
    | some config => Settings.ofFile files homes config
    | none => .ok (Settings.standard files.workingDirectory)
  onSession (Session.configure settings)

/-- Answers a line, and tells whether the dialogue goes on. -/
def answerLine (line : String) : TerminalAction Bool := do
  let source := Text.strip line
  if source = "" then return true
  else if source = exitWord then return false
  else
    let execution ← onSession (Session.runScript (.text source))
    let _ ← showExecution execution
    return true

/-- Holds a dialogue on lines. -/
def dialogue : List String → TerminalAction Unit
  | [] => write (promptText ++ farewell)
  | line :: rest => do
    write promptText
    let goesOn ← answerLine line
    if goesOn then dialogue rest

/-- The lines of an input. Only the last one may lack its end. -/
def linesOf (input : String) : List String :=
  let pieces := (Text.splitAt '\n' input.toList).map String.ofList
  if pieces.getLast? = some "" then pieces.dropLast else pieces

/-! ## The program -/

/-- Does everything up to a dialogue, and gives the status if there is none. -/
def start (homes : Path.Homes) (arguments : Arguments) : TerminalAction (Option Nat) := do
  let config := arguments.config.map PathName.ofText
  let present ← match config with
    | some name => isFile name
    | none => Action.pure true
  if !present then
    complain ("Error: config not found: " ++ (config.map PathName.text).getD "" ++ "\n")
    return some 1
  match arguments.script.filter (· ≠ "") with
  | some script =>
    let status ← runFile homes script arguments.config
    return some status
  | none =>
    beginDialogue homes arguments.config
    return none

/-- Writes what arguments that lead to no run call for, and gives the status. -/
def refuse : Refusal → TerminalAction Nat
  | .help => do
    write helpText
    return 0
  | .mistake message => do
    complain (usage ++ "modreq-run: error: " ++ message ++ "\n")
    return 2

/-- Runs the program on arguments and an input, and gives its status. -/
def run (homes : Path.Homes) (texts : List String) (input : String) : TerminalAction Nat :=
  match Arguments.read texts with
  | .error refusal => refuse refusal
  | .ok arguments => do
    match ← start homes arguments with
    | some status => return status
    | none => do
      dialogue (linesOf input)
      return 0

/-- The status with which an exit that was asked for ends the program. -/
def exitStatus (fault : Fault) : Datum :=
  match fault.arguments with
  | [] => .null
  | [status] => status
  | several => .tuple several

/-- Ends the program after a run. An exit that was asked for gives the status, and an interruption is
a way to end it. Any other error is its end too. -/
def conclude (outcome : Outcome Fault Nat) : TerminalAction Datum :=
  match outcome with
  | .value status => Action.pure (.int status)
  | .error fault => Action.fail fault
  | .interruption fault =>
    if fault.isA "SystemExit" then Action.pure (exitStatus fault)
    else if fault.isA "KeyboardInterrupt" then do
      write farewell
      return .int 0
    else Action.interrupt fault

/-- Runs the program to its end. -/
def runToEnd (homes : Path.Homes) (texts : List String) (input : String) : TerminalAction Datum := do
  let outcome ← Action.attempt (run homes texts input)
  conclude outcome

end ModuleSystem.CommandLine
