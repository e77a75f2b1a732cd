import ModuleSystem.Proofs.FileTree
import ModuleSystem.Proofs.Run.Host

/-! # What loaders of files find

A loader of files looks for normal paths only, and as long as no extension has a slash it also finds normal
paths only. A loader on a search path finds every file whose absolute path it is given, so what it does not
find it cannot load either. -/

namespace ModuleSystem

open ModuleSystem.Path (NormalPath IsPlain)

/-- No extension leads to another directory. -/
def Slashless (extensions : List String) : Prop := ∀ extension ∈ extensions, '/' ∉ extension.toList

variable {tree : FileTree} {extensions directories : List String}

theorem Slashless.plain_index (slashless : Slashless extensions) {extension : String}
    (member : extension ∈ extensions) : IsPlain (Probe.indexName ++ extension).toList := by
  have index : IsPlain Probe.indexName.toList := ⟨by decide, by decide, by decide, by decide⟩
  rw [String.toList_append]
  exact index.append (slashless extension member)

@[simp] theorem Probe.isFile_ofTree (tree : FileTree) : (ofTree tree).isFile = tree.isFile := rfl

/-- A file is found under its own path. -/
theorem Probe.find?_of_isFile {path : String} (file : tree.isFile path = true) :
    (ofTree tree).find? extensions path = some path := by
  simp only [find?, isFile_ofTree, file, if_true]

/-- If a root is no directory, then no extension of it is a file. -/
def Probe.KeepsRoots (probe : Probe) : Prop :=
  ∀ root : NormalPath, root.segments = [] → probe.isDirectory root.text = false →
    ∀ extension, probe.isFile (root.text ++ extension) = false

theorem Probe.keepsRoots_ofTree (tree : FileTree) : (ofTree tree).KeepsRoots := by
  intro root bottom elsewhere
  have directory : tree.isDirectory root.text = true := FileTree.isDirectory_root bottom
  exact absurd (directory.symm.trans elsewhere) (by simp)

/-- Whatever is found for a normal path has a normal path itself, with as many slashes in front. -/
theorem Probe.exists_normal {probe : Probe} (keeps : probe.KeepsRoots) (slashless : Slashless extensions)
    {path : NormalPath} {found : String} (hit : probe.find? extensions path.text = some found) :
    ∃ normal : NormalPath, found = normal.text ∧ normal.slashes = path.slashes := by
  have file : probe.isFile found = true := isFile_of_find? hit
  unfold find? at hit
  split at hit
  · cases hit
    exact ⟨path, rfl, rfl⟩
  · split at hit
    · obtain ⟨extension, member, rfl⟩ := List.mem_map.mp (List.mem_of_find?_eq_some hit)
      refine ⟨path.child (slashless.plain_index member), congrArg String.ofList ?_, rfl⟩
      rw [NormalPath.toList_text, path.joinChars_eq]
    · rename_i elsewhere
      split at hit
      · obtain ⟨extension, member, rfl⟩ := List.mem_map.mp (List.mem_of_find?_eq_some hit)
        -- a root has no files with an extension, so that this one is put at the end of a segment
        have inner : path.segments ≠ [] := by
          intro root
          have absent := keeps path root (Bool.eq_false_iff.mpr elsewhere) extension
          exact absurd (absent.symm.trans file) (by simp)
        obtain ⟨normal, same, slashes⟩ := path.chars_append inner (slashless extension member)
        refine ⟨normal, String.toList_inj.mp ?_, slashes⟩
        rw [String.toList_append, NormalPath.toList_text, NormalPath.toList_text, same]
      · cases hit

namespace Loader

theorem findBelow?_eq_findSome? (probe : Probe) (extensions : List String) (name : String)
    (directories : List String) : findBelow? probe extensions name directories =
      directories.findSome? fun directory =>
        probe.find? extensions (Path.normalize (Path.join directory name)) := by
  induction directories with
  | nil => rfl
  | cons directory rest ih =>
    rw [findBelow?, ih, List.findSome?_cons]
    cases probe.find? extensions (Path.normalize (Path.join directory name)) with
    | none => rfl
    | some found => rfl

/-- What is found below absolute directories is found for a normal path. -/
theorem exists_path_of_findBelow? {probe : Probe} {name found : String}
    (rooted : ∀ directory ∈ directories, Path.isAbsolute directory = true)
    (hit : findBelow? probe extensions name directories = some found) :
    ∃ path : NormalPath, probe.find? extensions path.text = some found := by
  rw [findBelow?_eq_findSome?] at hit
  obtain ⟨directory, member, probed⟩ := List.exists_of_findSome?_eq_some hit
  obtain ⟨path, same, _⟩ := Path.exists_normalize (Path.isAbsolute_join (rooted directory member) name)
  exact ⟨path, same ▸ probed⟩

theorem findBelow?_normal (slashless : Slashless extensions)
    (rooted : ∀ directory ∈ directories, Path.isAbsolute directory = true) {name found : String}
    (hit : findBelow? (Probe.ofTree tree) extensions name directories = some found) :
    ∃ normal : NormalPath, found = normal.text := by
  obtain ⟨path, probed⟩ := exists_path_of_findBelow? rooted hit
  obtain ⟨normal, same, _⟩ := Probe.exists_normal (Probe.keepsRoots_ofTree tree) slashless probed
  exact ⟨normal, same⟩

/-- An absolute path to a file is found on any search path. -/
theorem findBelow?_of_isFile (some_directory : directories ≠ []) {path : String}
    (absolute : Path.isAbsolute path = true) (file : tree.isFile path = true) :
    findBelow? (Probe.ofTree tree) extensions path directories = some (Path.normalize path) := by
  cases directories with
  | nil => exact absurd rfl some_directory
  | cons directory rest =>
    have same : Path.join directory path = path := by
      rw [Path.join, FileTree.joinChars_of_absolute absolute, String.ofList_toList]
    simp only [findBelow?, same, Probe.find?_of_isFile (FileTree.isFile_normalize absolute file)]

theorem resolve_file (base : String) (id : String) (directory : Option String) (host : Host) :
    ((Loader.file base extensions).resolve id directory host).1 =
      .value (((Probe.ofTree host.files).find? extensions (pathOf base id directory)).getD
        (pathOf base id directory)) := by
  simp only [resolve, Action.bind_apply, Action.get]
  cases (Probe.ofTree host.files).find? extensions (pathOf base id directory) <;> rfl

theorem resolve_search (id : String) (directory : Option String) (host : Host) :
    ((Loader.search directories extensions).resolve id directory host).1 =
      .value ((findBelow? (Probe.ofTree host.files) extensions id directories).getD id) := by
  simp only [resolve, Action.bind_apply, Action.get]
  cases findBelow? (Probe.ofTree host.files) extensions id directories <;> rfl

section

variable {workingDirectory id resolved : String} {host : Host}

/-- A loader of files resolves every id to what is found for a normal path, or else to that path. -/
theorem ofBase_whence (rooted : Path.isAbsolute workingDirectory = true) {base directory : Option String}
    (seen : ∀ path ∈ directory, Path.isAbsolute path = true)
    (resolves : ((ofBase workingDirectory base extensions).resolve id directory host).1 =
      .value resolved) : ∃ path : NormalPath, resolved =
        ((Probe.ofTree host.files).find? extensions path.text).getD path.text := by
  have below : Path.isAbsolute (directory.getD (Path.absolute workingDirectory
      ((base.filter (· ≠ "")).getD workingDirectory))) = true := by
    cases directory with
    | none => exact Path.isAbsolute_absolute rooted _
    | some path => exact seen path rfl
  obtain ⟨path, same⟩ := Path.exists_locate below id
  rw [ofBase, resolve_file, pathOf, same] at resolves
  exact ⟨path, (Outcome.value.inj resolves).symm⟩

/-- A loader of files resolves every id to a normal path. -/
theorem ofBase_normal (slashless : Slashless extensions)
    (rooted : Path.isAbsolute workingDirectory = true) {base directory : Option String}
    (seen : ∀ path ∈ directory, Path.isAbsolute path = true)
    (resolves : ((ofBase workingDirectory base extensions).resolve id directory host).1 =
      .value resolved) : ∃ normal : NormalPath, resolved = normal.text := by
  obtain ⟨path, rfl⟩ := ofBase_whence rooted seen resolves
  cases hit : (Probe.ofTree host.files).find? extensions path.text with
  | none => exact ⟨path, rfl⟩
  | some found =>
    obtain ⟨normal, same, _⟩ := Probe.exists_normal (Probe.keepsRoots_ofTree _) slashless hit
    exact ⟨normal, same⟩

/-- A loader on a search path resolves an id to a normal path, unless it is not a path to a file. -/
theorem ofSearchPath_normal (slashless : Slashless extensions)
    (rooted : Path.isAbsolute workingDirectory = true) {directory : Option String}
    (some_directory : directories ≠ [])
    (resolves : ((ofSearchPath workingDirectory directories extensions).resolve id directory host).1 =
      .value resolved) (absolute : Path.isAbsolute resolved = true)
    (file : host.files.isFile resolved = true) : ∃ normal : NormalPath, resolved = normal.text := by
  rw [ofSearchPath, resolve_search] at resolves
  cases hit : findBelow? (Probe.ofTree host.files) extensions id
      (directories.map (Path.absolute workingDirectory)) with
  | none =>
    rw [hit] at resolves
    cases resolves
    cases hit.symm.trans (findBelow?_of_isFile (by simpa using some_directory) absolute file)
  | some found =>
    rw [hit] at resolves
    cases resolves
    refine findBelow?_normal slashless (fun other member => ?_) hit
    obtain ⟨directory, _, rfl⟩ := List.mem_map.mp member
    exact Path.isAbsolute_absolute rooted directory

end

/-- The text of a file is read as it is, but for its line ends. -/
theorem readText_of_read {host : Host} {path : String} {content : List UInt8} {chars : List Char}
    (clean : FileTree.hasNul path = false) (held : host.files.read path = .ok content)
    (readable : Text.readUtf8 content = .ok chars) :
    readText path host = (.value (String.ofList (Text.unifyNewlines chars)), host) := by
  unfold readText
  simp only [Action.bind_apply, Action.get, clean, Bool.false_eq_true, if_false, held, readable,
    HostAction.ofExcept, Action.pure, Action.pure_apply]

/-- Only regular files are read. -/
theorem isFile_of_readText {path text : String} {host : Host}
    (value : (readText path host).1 = .value text) : host.files.isFile path = true := by
  obtain ⟨clean, content, held⟩ := exists_read_of_readText value
  exact FileTree.isFile_of_read clean held

theorem isFile_of_load_file {base id : String} {host : Host} {source : Datum}
    (loads : ((Loader.file base extensions).load id host).1 = .value source) :
    host.files.isFile id = true := by
  obtain ⟨_, _, ran, _⟩ := Action.bind_value loads
  exact isFile_of_readText (congrArg Prod.fst ran)

theorem isFile_of_load_search {id : String} {host : Host} {source : Datum}
    (loads : ((Loader.search directories extensions).load id host).1 = .value source) :
    Path.isAbsolute id = true ∧ host.files.isFile id = true := by
  by_cases absolute : Path.isAbsolute id
  · simp only [load, absolute, if_true] at loads
    obtain ⟨_, _, ran, _⟩ := Action.bind_value loads
    exact ⟨absolute, isFile_of_readText (congrArg Prod.fst ran)⟩
  · simp only [load, absolute, Bool.false_eq_true, if_false] at loads
    exact absurd loads (HostAction.raise_ne_value _ _ _)

end Loader

end ModuleSystem
