import ModuleSystem.Proofs.LocalPath
import ModuleSystem.Proofs.MemoryLoader
import ModuleSystem.Proofs.Readback
import ModuleSystem.Proofs.Reading

/-! # Spellings of a file

A local path is located below a directory, and what is found there may have an extension or be an index file.
The located path and the found one are other spellings of the same request: as long as no character comes in
that a local path cannot hold, and no second slash comes in front, both are local paths again, and they are
resolved to where the first spelling leads, whoever asks. -/

namespace ModuleSystem

open ModuleSystem.Path (NormalPath SingleSlash)
open Identifier (canonicalId classify fileProtocol isLocal)

namespace Path

/-- Neither a backslash nor a NUL stands in a text. -/
def IsClean (chars : List Char) : Prop := ∀ c ∈ chars, c ≠ '\\' ∧ c ≠ '\x00'

instance (chars : List Char) : Decidable (IsClean chars) := List.decidableBAll _ _

/-- A path that has neither a backslash nor a NUL and does not begin with two slashes. -/
structure IsSpotless (path : String) : Prop where
  clean : IsClean path.toList
  undoubled : ¬ ['/', '/'] <+: path.toList

theorem IsSpotless.single {path : String} (spotless : IsSpotless path)
    (absolute : isAbsolute path = true) : SingleSlash path.toList := by
  obtain ⟨rest, chars⟩ := List.head?_eq_some_iff.mp (of_decide_eq_true absolute)
  refine ⟨by rw [chars]; rfl, fun slash => spotless.undoubled ?_⟩
  rw [chars] at slash ⊢
  obtain ⟨more, rfl⟩ := List.head?_eq_some_iff.mp slash
  exact ⟨more, rfl⟩

end Path

/-! ## Local paths by their characters -/

namespace Identifier

/-- A normal path with one slash in front is a local path, if it has neither a backslash nor a NUL. -/
theorem isLocal_text {path : NormalPath} (single : path.slashes = 1) (clean : Path.IsClean path.chars) :
    isLocal path.text = true := by
  have chars : path.chars = '/' :: ['/'].intercalate path.segments := by
    rw [path.chars_eq, single]
    rfl
  have segmented : IsSegmented (['/'].intercalate path.segments) := by
    refine ⟨fun c member => clean c (by simp [chars, member]), ?_⟩
    by_cases root : path.segments = []
    · simp [root]
    · have slashless : ∀ segment ∈ path.segments, '/' ∉ segment :=
        fun segment member => (path.plain segment member).slashless
      rw [List.splitOn_intercalate _ slashless root]
      exact fun piece member => (path.plain piece (List.mem_of_mem_dropLast member)).nonempty
  rw [isLocal, NormalPath.toList_text, chars]
  exact areSegments_iff_isSegmented.mpr segmented

/-- No local path has a backslash or a NUL. -/
theorem clean_of_isLocal {raw : String} (accepted : isLocal raw = true) : Path.IsClean raw.toList := by
  obtain ⟨start, opens, rest, reads, split⟩ := isLocalChars_iff.mp accepted
  have segmented := areSegments_iff_isSegmented.mp reads
  intro c member
  rw [← split] at member
  rcases List.mem_append.mp member with first | last
  · have opening : ∀ start ∈ [['/'], ['.', '/'], ['.', '.', '/']], Path.IsClean start := by decide
    exact opening start (mem_openings.mp opens) c first
  · exact segmented.clean c last

theorem ne_empty_of_isLocal {raw : String} (accepted : isLocal raw = true) : raw ≠ "" := by
  rintro rfl
  cases accepted

/-- No local path begins with two slashes. -/
theorem rootSlashes_of_isLocal {raw : String} (accepted : isLocal raw = true) :
    Path.rootSlashes raw.toList ≠ 2 := by
  unfold isLocal isLocalChars at accepted
  split at accepted
  · rename_i rest chars
    rw [chars]
    cases rest with
    | nil => decide
    | cons c more =>
      have other : c ≠ '/' := by
        rintro rfl
        simp [areSegments] at accepted
      simp [Path.rootSlashes, other]
  · rename_i chars
    rw [chars]
    simp [Path.rootSlashes]
  · rename_i chars
    rw [chars]
    simp [Path.rootSlashes]
  · cases accepted

end Identifier

/-! ## What is located and what is found -/

namespace Probe

variable {probe : Probe} {extensions : List String}

/-- What is found has no characters but those of the path and of the extensions, and those of an index. -/
theorem mem_of_find? {path found : String} (hit : probe.find? extensions path = some found) {c : Char}
    (member : c ∈ found.toList) : c ∈ path.toList ∨ c ∈ '/' :: indexName.toList ∨
      ∃ extension ∈ extensions, c ∈ extension.toList := by
  unfold find? at hit
  split at hit
  · cases hit
    exact .inl member
  · split at hit
    · obtain ⟨extension, given, rfl⟩ := List.mem_map.mp (List.mem_of_find?_eq_some hit)
      rw [Path.join, String.toList_ofList] at member
      rcases Path.mem_joinChars member with last | first | slash
      · rw [String.toList_append, List.mem_append] at last
        exact .inr (last.imp (List.mem_cons_of_mem _) fun inside => ⟨extension, given, inside⟩)
      · exact .inl first
      · exact .inr (.inl (by simp [slash]))
    · split at hit
      · obtain ⟨extension, given, rfl⟩ := List.mem_map.mp (List.mem_of_find?_eq_some hit)
        rw [String.toList_append, List.mem_append] at member
        exact member.imp_right fun inside => .inr ⟨extension, given, inside⟩
      · cases hit

end Probe

namespace Loader

/-- A loader of files with a base directory and extensions: of those of the host, or of a table of files. -/
inductive IsFileLoader (base : String) (extensions : List String) : Loader → Prop
  | file : IsFileLoader base extensions (.file base extensions)
  | memory (files : Ordered String) : IsFileLoader base extensions (.memory files base extensions)

/-- An extension that leads to no other directory and that a local path can end in. -/
structure IsSuffix (extension : String) : Prop where
  slashless : '/' ∉ extension.toList
  clean : Path.IsClean extension.toList

variable {loader : Loader} {base : String} {extensions : List String} {path : NormalPath}

/-- As long as the files stay as they are, a loader answers by what is found for the path that an id stands
for. -/
def AnswersBy (probe : Probe) (base : String) (extensions : List String) (files : FileTree)
    (loader : Loader) : Prop :=
  ∀ id directory (host : Host), host.files = files → (loader.resolve id directory host).1 =
    .value ((probe.find? extensions (pathOf base id directory)).getD (pathOf base id directory))

theorem IsFileLoader.exists_probe (serves : loader.IsFileLoader base extensions) (files : FileTree) :
    ∃ probe : Probe, probe.KeepsRoots ∧ loader.AnswersBy probe base extensions files := by
  cases serves with
  | file =>
    refine ⟨.ofTree files, Probe.keepsRoots_ofTree files, fun id directory host same => ?_⟩
    rw [resolve_file, same]
  | memory table => exact ⟨.ofTable table, Probe.keepsRoots_ofTable table, fun _ _ _ _ => rfl⟩

/-- What a local path stands for is a local path. -/
theorem exists_pathOf {raw : String} (accepted : isLocal raw = true) {directory : Option String}
    (absolute : Path.isAbsolute (directory.getD base) = true)
    (spotless : Path.IsSpotless (directory.getD base)) : ∃ path : NormalPath,
      path.slashes = 1 ∧ pathOf base raw directory = path.text ∧ Path.IsClean path.chars := by
  obtain ⟨path, single, same⟩ := Path.exists_locate_single (spotless.single absolute)
    (Identifier.rootSlashes_of_isLocal accepted)
  refine ⟨path, single, same, fun c member => ?_⟩
  rw [← NormalPath.toList_text, ← same] at member
  rcases Path.mem_locate absolute member with own | below | rfl
  · exact Identifier.clean_of_isLocal accepted c own
  · exact spotless.clean c below
  · decide

/-- What is found for a local path is a local path. -/
theorem exists_found {probe : Probe} (keeps : probe.KeepsRoots)
    (fit : ∀ extension ∈ extensions, IsSuffix extension) (single : path.slashes = 1)
    (clean : Path.IsClean path.chars) : ∃ found : NormalPath, found.slashes = 1 ∧
      (probe.find? extensions path.text).getD path.text = found.text ∧ Path.IsClean found.chars := by
  cases hit : probe.find? extensions path.text with
  | none => exact ⟨path, single, rfl, clean⟩
  | some name =>
    have slashless : Slashless extensions := fun extension given => (fit extension given).slashless
    obtain ⟨found, rfl, slashes⟩ := Probe.exists_normal keeps slashless hit
    refine ⟨found, slashes.trans single, rfl, fun c member => ?_⟩
    rw [← NormalPath.toList_text] at member
    rcases Probe.mem_of_find? hit member with own | index | ⟨extension, given, ending⟩
    · exact clean c (by rwa [NormalPath.toList_text] at own)
    · have all : Path.IsClean ('/' :: Probe.indexName.toList) := by decide
      exact all c index
    · exact (fit extension given).clean c ending

end Loader

/-! ## Requests -/

namespace Session

variable {s t : Session} {parent : Option Nat} {number : Nat} {base name raw : String}
  {extensions : List String}

/-- Where the loader of the file protocol leads to if it resolves an id to a path. -/
def fileDestination (number : Nat) (resolved : String) : Destination :=
  ⟨number, resolved, canonicalId (some fileProtocol) resolved, resolved⟩

/-- A local path goes where its loader resolves it to, as long as the files stay as they are. -/
theorem resolve_local {resolved : String} (accepted : isLocal raw = true)
    (found : s.rest.registry.find (some fileProtocol) raw = .ok number)
    (resolves : ∀ host : Host, host.files = s.rest.host.files →
      ((loaderOf s.rest number).resolve raw (directoryOf s.rest parent) host).1 = .value resolved) :
    (resolve (.text raw) parent s).1 = .value (fileDestination number resolved) := by
  have read := Identifier.classify_of_local accepted
  have asks : s.rest.registry.find (classify raw).protocol (classify raw).id = .ok number := by
    rw [read]
    exact found
  obtain ⟨host, later, same⟩ := resolve_value?_of_found parent asks
  rw [read, resolves host later.files] at same
  rw [← Outcome.value?_eq_some_iff, same]
  rfl

/-- A name goes to a destination: this is what it is resolved to, and unless it is that of a builtin, a
request for it goes to the key. -/
structure GoesTo (s : Session) (parent : Option Nat) (name : String) (destination : Destination) : Prop where
  resolve : (resolve (.text name) parent s).1 = .value destination
  target : s.rest.builtins.contains name = false → target? parent (.text name) s = some destination.key

theorem goesTo_of_resolve {destination : Destination} (nonempty : name ≠ "")
    (value : (resolve (.text name) parent s).1 = .value destination) : GoesTo s parent name destination := by
  refine ⟨value, fun undefined => ?_⟩
  simp only [target?, if_neg nonempty, undefined, value, Outcome.value?, Bool.false_eq_true, if_false,
    Option.map_some]

/-- A normal path that is local goes, whoever asks for it, where it is found. -/
theorem goesTo_found {probe : Probe} {path file : NormalPath} (single : path.slashes = 1)
    (clean : Path.IsClean path.chars)
    (found : s.rest.registry.find (some fileProtocol) path.text = .ok number)
    (answers : (loaderOf s.rest number).AnswersBy probe base extensions s.rest.host.files)
    (probed : (probe.find? extensions path.text).getD path.text = file.text) (parent : Option Nat) :
    GoesTo s parent path.text (fileDestination number file.text) := by
  have spelled := Identifier.isLocal_text single clean
  refine goesTo_of_resolve (Identifier.ne_empty_of_isLocal spelled)
    (resolve_local spelled found fun host files => ?_)
  rw [answers _ _ _ files, Loader.pathOf, Path.locate_of_absolute path.isAbsolute_text, path.normalize_text,
    probed]

/-- The directory of a module is as spotless as the name of its file. -/
theorem directoryOf_spotless
    (filed : ∀ asking ∈ parent, ∀ name ∈ (s.rest.record asking).filename, Path.IsSpotless name)
    {path : String} (seen : directoryOf s.rest parent = some path) :
    Path.isAbsolute path = true ∧ Path.IsSpotless path := by
  obtain ⟨record, asks, has⟩ := Option.bind_eq_some_iff.mp seen
  obtain ⟨asking, here, rfl⟩ := Option.map_eq_some_iff.mp asks
  have absolute := (s.rest.record asking).isAbsolute_directory has
  obtain ⟨name, named, rfl⟩ := Option.map_eq_some_iff.mp has
  have spotless := filed asking here name (Option.filter_eq_some_iff.mp named).1
  have start : (Path.directory name).toList <+: name.toList := by
    rw [Path.directory, String.toList_ofList]
    exact Path.directoryChars_starts _
  exact ⟨absolute, fun c member => spotless.clean c (start.subset member),
    fun doubled => spotless.undoubled (doubled.trans start)⟩

/-- All spellings of a file go to one key. If the loader of the file protocol is one of files, its base
directory is absolute, and neither that nor the file of the module that asks has a backslash, a NUL or two
slashes in front, then each local path is resolved. The path that it stands for, as seen from the module, and
the path that it is resolved to lead to the same destination later on, whichever module asks for them. -/
theorem spellings_share_one_key
    (found : s.rest.registry.find (some fileProtocol) raw = .ok number)
    (serves : (loaderOf s.rest number).IsFileLoader base extensions)
    (absolute : Path.isAbsolute base = true) (spotless : Path.IsSpotless base)
    (fit : ∀ extension ∈ extensions, Loader.IsSuffix extension)
    (filed : ∀ asking ∈ parent, ∀ name ∈ (s.rest.record asking).filename, Path.IsSpotless name)
    (accepted : isLocal raw = true) (later : s.rest.Later t.rest) :
    ∃ destination, GoesTo s parent raw destination ∧
      destination.key = canonicalId (some fileProtocol) destination.resolved ∧
      ∀ other, GoesTo t other (Loader.pathOf base raw (directoryOf s.rest parent)) destination ∧
        GoesTo t other destination.resolved destination := by
  obtain ⟨probe, keeps, answers⟩ := serves.exists_probe s.rest.host.files
  have below : Path.isAbsolute ((directoryOf s.rest parent).getD base) = true ∧
      Path.IsSpotless ((directoryOf s.rest parent).getD base) := by
    cases seen : directoryOf s.rest parent with
    | none => exact ⟨absolute, spotless⟩
    | some path => exact directoryOf_spotless filed seen
  obtain ⟨path, single, located, clean⟩ := Loader.exists_pathOf accepted below.1 below.2
  obtain ⟨file, one, probed, unspotted⟩ := Loader.exists_found keeps fit single clean
  have settled : (probe.find? extensions file.text).getD file.text = file.text := by
    rw [← probed]
    exact probe.find?_getD_again extensions path.text
  -- neither the files nor the loader change
  have still : (loaderOf t.rest number).AnswersBy probe base extensions t.rest.host.files := by
    rw [later.loaderOf, later.host.files]
    exact answers
  have served : t.rest.registry.find (some fileProtocol) raw = .ok number := by
    rw [later.registry]
    exact found
  refine ⟨fileDestination number file.text, ?_, rfl, fun other => ⟨?_, ?_⟩⟩
  · refine goesTo_of_resolve (Identifier.ne_empty_of_isLocal accepted)
      (resolve_local accepted found fun host files => ?_)
    rw [answers _ _ _ files, located, probed]
  · rw [located]
    exact goesTo_found single clean served still probed other
  · exact goesTo_found one unspotted served still settled other

/-- A session with the files of a package, and nothing else. -/
def packaging : Session :=
  ⟨.empty, { World.empty .empty with
    registry := ⟨.ofList [(fileProtocol, some 0)], none⟩
    mounted := #[⟨.memory Loader.packaged "/" [".py"], 0, []⟩] }⟩

/-- A package goes to one key as a relative path, by its directory and by its index file. -/
theorem package_spellings_share_one_key : ∃ destination, GoesTo packaging none "./lib" destination ∧
    destination.key = "file:///lib/index.py" ∧
    ∀ other, GoesTo packaging other "/lib" destination ∧
      GoesTo packaging other "/lib/index.py" destination := by
  have found : packaging.rest.registry.find (some fileProtocol) "./lib" = .ok 0 := rfl
  have fit : ∀ extension ∈ [".py"], Loader.IsSuffix extension := by
    intro extension given
    obtain rfl := List.mem_singleton.mp given
    exact ⟨by decide, by decide⟩
  have filed : ∀ asking ∈ (none : Option Nat), ∀ name ∈ (packaging.rest.record asking).filename,
      Path.IsSpotless name := by simp
  obtain ⟨destination, first, key, again⟩ := spellings_share_one_key found (.memory Loader.packaged)
    (by decide) ⟨by decide, by decide⟩ fit filed (by decide) (World.Later.refl _)
  have resolved : (resolve (.text "./lib") none packaging).1 =
      .value (fileDestination 0 "/lib/index.py") := rfl
  have same := Outcome.value.inj (first.resolve.symm.trans resolved)
  subst same
  exact ⟨_, first, key, again⟩

end Session

end ModuleSystem
