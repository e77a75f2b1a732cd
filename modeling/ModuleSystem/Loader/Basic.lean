import ModuleSystem.Http
import ModuleSystem.Loader.Probe

/-!
# Loaders

A loader turns the id of a module into its source. It first resolves an id, as seen from the directory
of the module that asks, to the id under which the module is known, and then loads that.
-/

namespace ModuleSystem

/-- Answers that are prepared in advance: what ids resolve to, their sources, and the errors that
loading them raises. An id that is not mentioned resolves to itself. -/
structure Prepared where
  resolutions : Ordered (Except Fault String)
  sources : Ordered Datum
  errors : Ordered Fault

/-- A loader: of a table of files, of files below a directory, of files on a search path, of an
address, or of prepared answers. -/
inductive Loader where
  | memory (files : Ordered String) (baseDirectory : String) (extensions : List String)
  | file (baseDirectory : String) (extensions : List String)
  | search (directories : List String) (extensions : List String)
  | http (scheme : String) (settings : Datum)
  | prepared (answers : Prepared)

namespace Loader

/-- The extensions that are tried where none are given, in order. -/
def defaultExtensions : List String := [".py", ".json", ".yaml", ".yml", ".toml", ".xml"]

/-- The part of the log that loaders of files write to. -/
def fileSource : String := "modreq.file"

/-- The first file that a name stands for below one of some directories. -/
def findBelow? (probe : Probe) (extensions : List String) (name : String) :
    List String → Option String
  | [] => none
  | directory :: rest =>
    match probe.find? extensions (Path.normalize (Path.join directory name)) with
    | some found => some found
    | none => findBelow? probe extensions name rest

/-- The path that an id stands for, as seen from a directory. -/
def pathOf (baseDirectory id : String) (directory : Option String) : String :=
  Path.locate id (directory.getD baseDirectory)

/-- Resolves an id as seen from the directory of the module that asks. A file that is not found keeps
its path, so that loading it reports that it is missing. -/
def resolve (loader : Loader) (id : String) (directory : Option String) : HostAction String :=
  match loader with
  | .memory files baseDirectory extensions =>
    let path := pathOf baseDirectory id directory
    Action.pure (((Probe.ofTable files).find? extensions path).getD path)
  | .file baseDirectory extensions => do
    let path := pathOf baseDirectory id directory
    let host ← Action.get
    match (Probe.ofTree host.files).find? extensions path with
    | some found =>
      HostAction.note fileSource ("resolved " ++ id ++ " -> " ++ found)
      return found
    | none =>
      HostAction.note fileSource ("unresolved " ++ id ++ " -> " ++ path)
      return path
  | .search directories extensions => do
    let host ← Action.get
    match findBelow? (Probe.ofTree host.files) extensions id directories with
    | some found =>
      HostAction.note fileSource ("found " ++ id ++ " at " ++ found)
      return found
    | none => return id
  | .http _ _ => Action.pure id
  | .prepared answers =>
    HostAction.ofExcept (fun fault => fault) ((answers.resolutions.get? id).getD (.ok id))

/-- The text of a file, which must be UTF-8. Every line end counts as a line feed. -/
def readText (path : String) : HostAction String := do
  let host ← Action.get
  if FileTree.hasNul path then HostAction.raise .nulInPath
  else
    let content ← HostAction.ofExcept (Fault.file · path) (host.files.read path)
    let chars ← HostAction.ofExcept Fault.undecodable (Text.readUtf8 content)
    return String.ofList (Text.unifyNewlines chars)

/-- The address of an id under a scheme. -/
def addressOf (scheme id : String) : String := scheme ++ "://" ++ id

/-- Loads the source of a resolved id. -/
def load (loader : Loader) (id : String) : HostAction Datum :=
  match loader with
  | .memory files _ _ =>
    match files.get? id with
    | some text => Action.pure (.text text)
    | none => HostAction.raise (.noSuchSource id)
  | .file _ _ => do
    let text ← readText id
    return .text text
  | .search directories _ =>
    if Path.isAbsolute id then do
      let text ← readText id
      return .text text
    else HostAction.raise (.notOnSearchPath id directories)
  | .http scheme settings => do
    let url := addressOf scheme id
    HostAction.note "modreq.http" ("GET " ++ url)
    match ← Http.fetch settings url with
    | some text => return .text text
    | none => return .null
  | .prepared answers =>
    match answers.errors.get? id with
    | some fault => HostAction.raise fault
    | none =>
      match answers.sources.get? id with
      | some source => Action.pure source
      | none => HostAction.raise (.named "ConnectionError" [.text ("no source " ++ id)])

/-- The text of a loader. -/
def text : Loader → String
  | .memory files _ _ => "<MemoryLoader files=" ++ toString files.size ++ ">"
  | .file baseDirectory _ => "<FileLoader base_dir=" ++ Text.quoted baseDirectory ++ ">"
  | .search directories _ =>
    "<SearchPathLoader paths=" ++ (Datum.list (directories.map .text)).repr ++ ">"
  | .http scheme _ => "<HttpLoader scheme=" ++ Text.quoted scheme ++ ">"
  | .prepared _ => "<StubLoader>"

/-- How many ids a loader may have a source for, at most. An id that is a path may be spelled in many
ways, but only so many paths are short enough to lead anywhere. -/
def sourceBound (loader : Loader) (host : Host) : Nat :=
  match loader with
  | .memory files _ _ => files.size
  | .file _ _ | .search _ _ => FileTree.pathBound
  | .http _ _ => host.network.routes.size
  | .prepared answers => answers.sources.size

/-- A loader of files with a base directory, for a working directory. -/
def ofBase (workingDirectory : String) (baseDirectory : Option String)
    (extensions : List String) : Loader :=
  .file (Path.absolute workingDirectory ((baseDirectory.filter (· ≠ "")).getD workingDirectory))
    extensions

/-- A loader of files on a search path, for a working directory. -/
def ofSearchPath (workingDirectory : String) (directories extensions : List String) : Loader :=
  .search (directories.map (Path.absolute workingDirectory)) extensions

end Loader

end ModuleSystem
