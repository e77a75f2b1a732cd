import ModuleSystem.CommandLine.Basic

/-!
# The program

The command line on the files of this machine. Files are read before anything runs: those below the
working directory and below the directories that the arguments name. There is no network.
-/

open ModuleSystem CommandLine

/-- Reads the files below a directory into a tree, at most so many levels deep. Links to directories
are not followed, and what cannot be read is left out. -/
def readBelow (tree : FileTree) : (levels : Nat) → (directory : String) → IO FileTree
  | 0, _ => return tree
  | levels + 1, directory => do
    let place ← IO.FS.realPath directory
    let entries ← try place.readDir catch _ => pure #[]
    let mut tree := tree.addDirectory place.toString
    for entry in entries do
      let path := entry.path.toString
      match (← entry.path.symlinkMetadata).type with
      | .dir => tree ← readBelow tree levels path
      | _ =>
        tree ← try
            let content ← IO.FS.readBinFile path
            pure (tree.write path content.toList)
          catch _ => pure tree
    return tree

/-- The most levels of directories that are read. -/
def levelLimit : Nat := 32

/-- The directories that the program reads: the working directory, and those of the files that the
arguments name. -/
def directoriesOf (workingDirectory : String) (arguments : Arguments) : List String :=
  let named := (arguments.script.toList ++ arguments.config.toList).map fun path =>
    (PathName.ofText ((PathName.ofText path).resolve workingDirectory)).parent.text
  (workingDirectory :: named).eraseDups

/-- Writes what the program has written since the last time, and the lines of its log that matter. -/
def flush (verbose : Bool) (terminal : Terminal) : IO Terminal := do
  IO.print terminal.output
  (← IO.getStdout).flush
  let host := terminal.session.rest.host
  for line in host.log.reverse do
    if verbose || line.level = .warning then
      IO.eprintln ("[" ++ line.level.name ++ "] " ++ line.source ++ ": " ++ line.text)
  IO.eprint terminal.errors
  return { terminal with
    output := ""
    errors := ""
    session := terminal.session.update fun world => { world with host := { host with log := [] } } }

/-- Does a part of the program. -/
def perform {α : Type} (verbose : Bool) (action : TerminalAction α) (terminal : Terminal) :
    IO (Outcome Fault α × Terminal) := do
  let (outcome, terminal) := action terminal
  return (outcome, ← flush verbose terminal)

/-- Ends the program with the status that an outcome calls for. -/
def leave (verbose : Bool) (outcome : Outcome Fault Nat) (terminal : Terminal) : IO UInt32 := do
  let (status, _) ← perform verbose (conclude outcome) terminal
  match status with
  | .value (.scalar (.int status)) => return UInt32.ofNat status.toNat
  | .value (.scalar .null) => return 0
  | .value other =>
    IO.eprintln other.plain
    return 1
  | .error fault | .interruption fault =>
    IO.eprint (Report.trace fault true)
    return 1

/-- Holds a dialogue on the lines of an input as they come. -/
partial def converse (verbose : Bool) (input : IO.FS.Stream) (terminal : Terminal) : IO UInt32 := do
  let (_, terminal) ← perform verbose (Terminal.write promptText) terminal
  let line ← input.getLine
  if line.isEmpty then
    let (_, terminal) ← perform verbose (Terminal.write farewell) terminal
    leave verbose (.value 0) terminal
  else
    let (goesOn, terminal) ← perform verbose (answerLine line) terminal
    match goesOn with
    | .value true => converse verbose input terminal
    | .value false => leave verbose (.value 0) terminal
    | .error fault => leave verbose (.error fault) terminal
    | .interruption fault => leave verbose (.interruption fault) terminal

def main (texts : List String) : IO UInt32 := do
  match Arguments.read texts with
  | .error refusal =>
    let (outcome, terminal) ← perform false (refuse refusal) (.ofHost .empty)
    leave false outcome terminal
  | .ok arguments =>
    let workingDirectory := (← IO.currentDir).toString
    let home := (← IO.getEnv "HOME").getD "/"
    let mut files := { FileTree.empty with workingDirectory }
    for directory in directoriesOf workingDirectory arguments do
      files ← try readBelow files levelLimit directory catch _ => pure files
    let verbose := arguments.verbose
    let terminal := Terminal.ofHost { Host.empty with files }
    match ← perform verbose (start home arguments) terminal with
    | (.value none, terminal) => converse verbose (← IO.getStdin) terminal
    | (.value (some status), terminal) => leave verbose (.value status) terminal
    | (.error fault, terminal) => leave verbose (.error fault) terminal
    | (.interruption fault, terminal) => leave verbose (.interruption fault) terminal
