import ModuleSystem.Proofs.Spelling
import ModuleSystem.Proofs.Untouched

/-! # The file of the main module

A session that is created from settings with the file protocol runs a file as the main module by reading its
path as an identifier. The normal form of the path is a local path exactly if it has no backslash, no NUL
and no second slash in front. Then that file is loaded and evaluated under the key that is spelled by its
path. Any other path goes to the loader for bare names, whatever file there is. -/

namespace ModuleSystem

open ModuleSystem.Path (NormalPath)
open Identifier (canonicalId classify fileProtocol isLocal)

/-- The normal paths that are local paths. -/
theorem Identifier.isLocal_text_iff (path : NormalPath) :
    isLocal path.text = true ↔ path.slashes = 1 ∧ Path.IsClean path.chars := by
  constructor
  · intro accepted
    have clean := clean_of_isLocal accepted
    have single := rootSlashes_of_isLocal accepted
    rw [NormalPath.toList_text] at clean single
    rw [path.rootSlashes_chars] at single
    exact ⟨path.rooted.resolve_right single, clean⟩
  · rintro ⟨single, clean⟩
    exact isLocal_text single clean

namespace Session

variable {settings : Settings} {s t : Session} {protocol : String}

/-- A loader is registered for a protocol. -/
def Serves (world : World) (protocol : String) : Prop :=
  ∃ number, ∀ id, world.registry.find (some protocol) id = .ok number

theorem Serves.serving {world : World} {other : String} (loader : Loader)
    (serves : other = protocol ∨ Serves world protocol) : Serves (serving world other loader) protocol := by
  by_cases same : protocol = other
  · refine ⟨world.mounted.size, fun id => ?_⟩
    simp only [Session.serving, Registry.find, Ordered.get?_set, if_pos same]
  · obtain ⟨number, found⟩ := serves.resolve_left (Ne.symm same)
    refine ⟨number, fun id => ?_⟩
    rw [← found id]
    simp only [Session.serving, Registry.find, Ordered.get?_set, if_neg same]

/-- Every protocol of settings is served that has a loader. -/
theorem registerAll_serves {protocols : List String}
    (known : ∀ workingDirectory, loaderFor? workingDirectory settings protocol ≠ none)
    (serves : protocol ∈ protocols ∨ Serves s.rest protocol) :
    Serves (registerAll settings protocols s).2.rest protocol := by
  induction protocols generalizing s with
  | nil => exact serves.resolve_left (by simp)
  | cons other rest ih =>
    simp only [registerAll, Action.bind_apply, Session.world, Action.gets]
    cases asked : loaderFor? s.rest.host.files.workingDirectory settings other with
    | none =>
      refine ih (serves.imp_left fun member => (List.mem_cons.mp member).resolve_left ?_)
      rintro rfl
      exact known _ asked
    | some loader =>
      obtain ⟨nonempty, _⟩ := loaderFor?_raises (P := fun _ => True) asked
      simp only [Action.bind_apply, register_eq nonempty]
      refine ih ?_
      rcases serves with member | served
      · rcases List.mem_cons.mp member with same | later
        · exact .inr (.serving loader (.inl same.symm))
        · exact .inl later
      · exact .inr (.serving loader (.inr served))

theorem created_serves (settings : Settings) (builtins : Ordered Builtin) (host : Host)
    (known : ∀ workingDirectory, loaderFor? workingDirectory settings protocol ≠ none)
    (asked : protocol ∈ settings.protocols) :
    Serves (created settings builtins host).rest protocol := by
  obtain ⟨t, ran, _⟩ := registerAll_supplied settings settings.protocols
    ⟨.empty, { World.empty host with builtins }⟩
  have served := registerAll_serves (s := ⟨.empty, { World.empty host with builtins }⟩) known (.inl asked)
  rw [ran] at served
  simp only [created, configure, Action.bind_apply, ran]
  cases paths : settings.modulePaths with
  | nil => exact served
  | cons path rest => exact served

/-- The loader of a file that is there gives its text. -/
theorem fetchSource_file (destination : Destination) {base : String} {extensions : List String}
    {content : List UInt8} {chars : List Char}
    (filed : loaderOf s.rest destination.loader = .file base extensions)
    (clean : FileTree.hasNul destination.resolved = false)
    (held : s.rest.host.files.read destination.resolved = .ok content)
    (readable : Text.readUtf8 content = .ok chars) :
    ∃ t, fetchSource destination s = (.value (.text (String.ofList (Text.unifyNewlines chars))), t) := by
  obtain ⟨u, ⟨files, _⟩, fetches⟩ := fetchSource_eq destination s
  rw [← files] at held
  have reads := Loader.readText_of_read clean held readable
  rw [fetches, filed]
  simp only [fromLoader, onHost, Loader.load, Action.bind_apply, reads]
  exact ⟨_, rfl⟩

/-- A file runs as the main module: the loader of the file protocol gives its text, which is evaluated as the
module of the key that is spelled by its path. -/
def RunsFile (s : Session) (settings : Settings) (path file text : String) : Prop :=
  ∃ loader number u v,
    loaderOf u.rest loader = .ofBase s.rest.host.files.workingDirectory (some settings.baseDirectory)
      settings.extensions ∧
    Fetches s (placeOf (some fileProtocol) loader file) number (requireMain path s) u ∧
    fetchSource (placeOf (some fileProtocol) loader file) u = (.value (.text text), v)

section

variable {host : Host} {file : String}

/-- Nothing is built into a session that is created without builtins. -/
theorem created_unbuilt (settings : Settings) (host : Host) (name : String) :
    (created settings .empty host).rest.builtins.contains name = false := by
  have supplied := configure_supplied settings ⟨.empty, { World.empty host with builtins := .empty }⟩
  exact congrArg (fun builtins => Ordered.contains builtins name) supplied.builtins

/-- A normal path to a file that is a local path has its file for an origin. -/
theorem created_origin (settings : Settings) (filing : fileProtocol ∈ settings.protocols) {path : NormalPath}
    (spelled : isLocal path.text = true) (there : host.files.isFile path.text = true) :
    ∃ loader, origin? none (.text path.text) (created settings .empty host) =
        some (.loaded (some fileProtocol) loader path.text) ∧
      loaderOf (created settings .empty host).rest loader =
        .ofBase host.files.workingDirectory (some settings.baseDirectory) settings.extensions := by
  have made := created_spec settings .empty host
  have known : ∀ workingDirectory, loaderFor? workingDirectory settings fileProtocol ≠ none := by
    intro workingDirectory
    simp [loaderFor?]
  obtain ⟨loader, found⟩ := created_serves settings .empty host known filing
  have read := Identifier.classify_of_local spelled
  have asks : (created settings .empty host).rest.registry.find (classify path.text).protocol
      (classify path.text).id = .ok loader := by
    rw [read]
    exact found path.text
  obtain ⟨later, onward, goes⟩ := resolvedBy_of_found none (Identifier.ne_empty_of_isLocal spelled)
    (created_unbuilt settings host _) asks
  have served : loaderOf (created settings .empty host).rest loader =
      .ofBase host.files.workingDirectory (some settings.baseDirectory) settings.extensions := by
    have asked := (made.follows _ _ _ (found path.text)).2
    rw [made.files] at asked
    simpa [expected?, loaderFor?] using asked.symm
  refine ⟨loader, ?_, served⟩
  have still : later.files.isFile path.text = true := by
    rw [onward.files, made.files]
    exact there
  rw [goes, read, served, Loader.ofBase, Loader.resolve_file, Loader.pathOf,
    Path.locate_of_absolute path.isAbsolute_text, path.normalize_text, Probe.find?_of_isFile still]
  rfl

/-- In a session that is created from settings with the file protocol and without builtins, a file that is
UTF-8 runs as the main module, if the normal form of its path is a local path. -/
theorem main_runs_its_file {path : String} {content : List UInt8} {chars : List Char}
    (rooted : Path.isAbsolute host.files.workingDirectory = true)
    (filing : fileProtocol ∈ settings.protocols)
    (spelled : isLocal (Path.absolute host.files.workingDirectory path) = true)
    (held : host.files.read (Path.absolute host.files.workingDirectory path) = .ok content)
    (readable : Text.readUtf8 content = .ok chars) :
    RunsFile (created settings .empty host) settings path
      (Path.absolute host.files.workingDirectory path) (String.ofList (Text.unifyNewlines chars)) := by
  have made := created_spec settings .empty host
  obtain ⟨normal, same, _⟩ := Path.exists_normalize (Path.isAbsolute_join rooted path)
  have file : Path.absolute host.files.workingDirectory path = normal.text := same
  rw [file] at spelled held ⊢
  have clean : FileTree.hasNul normal.text = false := by
    have unspotted := ((Identifier.isLocal_text_iff normal).mp spelled).2
    rw [← NormalPath.toList_text] at unspotted
    simpa [FileTree.hasNul] using fun nul => (unspotted _ nul).2 rfl
  obtain ⟨loader, found, served⟩ :=
    created_origin settings filing spelled (FileTree.isFile_of_read clean held)
  have absent : (created settings .empty host).cache.get? (canonicalId (some fileProtocol) normal.text) =
      none := by
    rw [made.cache]
    rfl
  obtain ⟨number, u, fetches⟩ := dispatch_fetches true found absent
  have kept : loaderOf u.rest loader = .ofBase host.files.workingDirectory (some settings.baseDirectory)
      settings.extensions := by
    rw [fetches.later.loaderOf, served]
  have still : u.rest.host.files.read normal.text = .ok content := by
    rw [fetches.later.host.files, made.files]
    exact held
  obtain ⟨v, fetched⟩ :=
    fetchSource_file (placeOf (some fileProtocol) loader normal.text) kept clean still readable
  refine ⟨loader, number, u, v, ?_, ?_, fetched⟩
  · rw [made.files]
    exact kept
  · rw [requireMain_eq_dispatch, made.files, file]
    exact fetches

/-- If the normal form of its path is no local path, such a session has no loader for the main module, unless
there is one for bare names: the error tells the path as a bare name, whatever file there is. -/
theorem main_misses_its_file {path : String} (rooted : Path.isAbsolute host.files.workingDirectory = true)
    (pathless : settings.modulePaths = [])
    (unspelled : isLocal (Path.absolute host.files.workingDirectory path) = false) :
    ∃ raised, (requireMain path (created settings .empty host)).1 = .error raised ∧
      raised.fault = .noBareLoader (.text (Path.absolute host.files.workingDirectory path)) := by
  have made := created_spec settings .empty host
  have absolute := Path.isAbsolute_absolute rooted path
  rw [requireMain_eq_dispatch, made.files]
  generalize Path.absolute host.files.workingDirectory path = file at absolute unspelled ⊢
  have bare := (Identifier.classify_of_slash (of_decide_eq_true absolute)).mpr unspelled
  have unfound : (created settings .empty host).rest.registry.find (classify file).protocol
      (classify file).id = .error (.noBareLoader (.text file)) := by
    rw [bare, (Identifier.classify_bare bare).1]
    cases found : (created settings .empty host).rest.registry.find none file with
    | ok number =>
      have asked := (made.follows _ _ _ found).2
      simp [expected?, pathless] at asked
    | error fault =>
      simp only [Registry.find] at found
      split at found
      · cases found
      · exact found.symm
  obtain ⟨t, resolves⟩ := resolve_of_unfound none unfound
  have nonempty : file ≠ "" := by
    rintro rfl
    cases absolute
  have undefined : (created settings .empty host).rest.builtins.get? file = none := by
    simpa [Ordered.contains] using created_unbuilt settings host file
  simp only [dispatch, Action.bind_apply, Action.get, if_neg nonempty, undefined, resolves]
  exact ⟨_, rfl, rfl⟩

/-- A host with two files; the name of one has a backslash. -/
def slanted : Host :=
  { Host.empty with files := ⟨.ofList [("/main.py", .file [49, 13, 10]), ("/a\\b.py", .file [49])], "/"⟩ }

/-- One of the files runs, the other one is there as well but is not run. -/
theorem slanted_file_is_missed :
    RunsFile (created (.standard "/") .empty slanted) (.standard "/") "main.py" "/main.py" "1\n" ∧
    slanted.files.isFile "/a\\b.py" = true ∧
    ∃ raised, (requireMain "a\\b.py" (created (.standard "/") .empty slanted)).1 = .error raised ∧
      raised.fault = .noBareLoader (.text "/a\\b.py") := by
  refine ⟨?_, rfl, ?_⟩
  · have file : Path.absolute slanted.files.workingDirectory "main.py" = "/main.py" := rfl
    have held : slanted.files.read (Path.absolute slanted.files.workingDirectory "main.py") =
        .ok [49, 13, 10] := rfl
    have readable : Text.readUtf8 [49, 13, 10] = .ok ['1', '\r', '\n'] := rfl
    have filing : fileProtocol ∈ (Settings.standard "/").protocols := by decide
    have spelled : isLocal (Path.absolute slanted.files.workingDirectory "main.py") = true := rfl
    have runs := main_runs_its_file rfl filing spelled held readable
    rw [file] at runs
    exact runs
  · exact main_misses_its_file rfl rfl rfl

end

end Session

end ModuleSystem
