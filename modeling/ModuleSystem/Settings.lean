import ModuleSystem.Loader.Basic
import ModuleSystem.Path.Name

/-!
# Settings

The settings of a system of modules, read from a mapping or from a file that holds one. Paths are
relative to the directory of that file and become absolute; extensions get a leading dot; only known
protocols are accepted; settings of requests complete the defaults.
-/

namespace ModuleSystem

/-- Settings: where files are looked for, with which extensions, on which search path, which
protocols are served, and how requests are made. -/
structure Settings where
  baseDirectory : String
  extensions : List String
  modulePaths : List String
  protocols : List String
  http : List (Datum × Datum)
  deriving Repr

/-- Where paths of settings start: the directory of the settings, and the home directories. -/
structure PathRoots where
  directory : String
  homes : Path.Homes

namespace Settings

/-- The protocols that a system can serve. -/
def knownProtocols : List String := ["file", "http", "https"]

/-- The settings that hold where nothing is said. -/
def standard (workingDirectory : String) : Settings :=
  ⟨workingDirectory, Loader.defaultExtensions, [], knownProtocols, Http.defaultEntries⟩

/-- A path of settings as an absolute path. No user has a name with a NUL. -/
def PathRoots.locate (roots : PathRoots) (path : Datum) : Except Fault String :=
  if ((Path.homeName? path.plain).map FileTree.hasNul).getD false then .error .nulInPath
  else .ok (Path.absolute roots.directory (Path.expandHome roots.homes path.plain))

/-- Paths of settings as absolute paths, one after the other. -/
def PathRoots.locateAll (roots : PathRoots) : List Datum → Except Fault (List String)
  | [] => .ok []
  | path :: rest => do
    let located ← PathRoots.locate roots path
    let others ← PathRoots.locateAll roots rest
    return located :: others

/-- An extension with a leading dot. -/
def dotted (extension : String) : String :=
  if extension.toList.head? = some '.' then extension else "." ++ extension

/-- The items of an entry that has to be a list. -/
def itemsOf (value : Datum) : Except Fault (List Datum) := value.items.mapError .coercion

/-- The protocols that settings ask for, all of which have to be known. -/
def readProtocols (value : Datum) : Except Fault (List String) := do
  let items ← itemsOf value
  let names := items.map Datum.plain
  let unknown := names.filter fun name => !knownProtocols.contains name
  if unknown.isEmpty then return names else throw (.unknownProtocols unknown)

/-- The settings of requests: the defaults, with the given entries in place of theirs. -/
def readHttp (value : Datum) : Except Fault (List (Datum × Datum)) :=
  match value with
  | .dict entries => .ok (Datum.insertAll Http.defaultEntries entries)
  | _ => .error .httpSettingsNotMapping

/-- Applies a reader to an entry, if there is one; otherwise a default holds. -/
def readEntry {α : Type} (entries : List (Datum × Datum)) (name : String) (default : α)
    (read : Datum → Except Fault α) : Except Fault α :=
  match Datum.field? name entries with
  | some value => read value
  | none => .ok default

/-- Reads settings from the entries of a mapping. -/
def ofEntries (workingDirectory : String) (roots : PathRoots) (entries : List (Datum × Datum)) :
    Except Fault Settings := do
  let initial := standard workingDirectory
  let baseDirectory ← readEntry entries "base-dir" initial.baseDirectory (PathRoots.locate roots)
  let extensions ← readEntry entries "extensions" initial.extensions fun value =>
    (itemsOf value).map fun items => items.map fun item => dotted item.plain
  let modulePaths ← readEntry entries "module-paths" initial.modulePaths fun value => do
    let items ← itemsOf value
    PathRoots.locateAll roots items
  let protocols ← readEntry entries "protocols" initial.protocols readProtocols
  let http ← readEntry entries "http" initial.http fun value =>
    if value matches .scalar .null then .ok initial.http else readHttp value
  return ⟨baseDirectory, extensions, modulePaths, protocols, http⟩

/-- Reads settings from a value that can be taken for a mapping, or is empty. -/
def ofDatum (workingDirectory : String) (roots : PathRoots) (value : Datum) : Except Fault Settings :=
  if value.truth then do
    let entries ← value.toEntries.mapError .coercion
    ofEntries workingDirectory roots entries
  else ofEntries workingDirectory roots []

/-- The formats that a file of settings may have. -/
def fileFormats : List Document.Format := [.json, .yaml, .toml]

/-- The format of a file of settings. -/
def formatOf (name : PathName) : Except Fault Document.Format :=
  match (Document.Format.ofExtension? name.suffix).filter fileFormats.contains with
  | some format => .ok format
  | none =>
    .error (.unsupportedSettingsFile (if name.suffix = "" then name.fileName else name.suffix))

/-- Reads settings from a file. -/
def ofFile (files : FileTree) (homes : Path.Homes) (path : String) : Except Fault Settings := do
  let name := PathName.ofText path
  let format ← formatOf name
  if FileTree.hasNul name.text then throw .nulInPath
  let content ← (files.read name.text).mapError (Fault.file · name.text)
  let value ← (Document.read (some format.name) none (.bytes content)).mapError .document
  let directory := (PathName.ofText (name.resolve files.workingDirectory)).parent.text
  match value with
  | .scalar .null => ofDatum files.workingDirectory ⟨directory, homes⟩ (.dict [])
  | .dict entries => ofDatum files.workingDirectory ⟨directory, homes⟩ (.dict entries)
  | _ => throw (.settingsNotMapping name.text)

/-- Settings as a mapping that `ofDatum` reads. -/
def toDatum (settings : Settings) : Datum :=
  let texts (items : List String) : Datum := .list (items.map .text)
  .dict [(.text "base-dir", .text settings.baseDirectory),
    (.text "extensions", texts settings.extensions),
    (.text "module-paths", texts settings.modulePaths),
    (.text "protocols", texts settings.protocols),
    (.text "http", .dict settings.http)]

end Settings

end ModuleSystem
