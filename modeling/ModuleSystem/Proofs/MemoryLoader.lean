import ModuleSystem.Proofs.TreeOfTable
import ModuleSystem.Proofs.Utf8
import ModuleSystem.World

/-! # Loaders of tables and of files

A loader of a table of files resolves and loads what a loader of files does on a tree that mirrors the
table. Every table of files that a tree can hold, none of them below another one, has such a tree. -/

namespace ModuleSystem

open ModuleSystem.Path (NormalPath IsPlain)

namespace Loader

variable {host : Host} {files : Ordered String} {path : NormalPath}

theorem readText_listed (mirrors : host.files.Mirrors files) {text : String}
    (listed : files.get? path.text = some text) (clean : '\r' ∉ text.toList) :
    (readText path.text host).1 = .value text := by
  have canHold := mirrors.canHold (Ordered.mem_keys_of_get? listed)
  have nul : FileTree.hasNul path.text = false := by simpa [FileTree.hasNul] using canHold.clean
  have content : host.files.read path.text = .ok (Text.encodeUtf8 text.toList) := by
    rw [FileTree.read, mirrors.find_file listed]
  rw [readText_of_read nul content (Text.readUtf8_encodeUtf8 _), Text.unifyNewlines_of_notMem clean,
    String.ofList_toList]

theorem readText_unlisted (mirrors : host.files.Mirrors files) (single : path.slashes = 1)
    (unlisted : files.get? path.text = none) :
    ∃ fault, (readText path.text host).1 = .error fault := by
  have absent : ∃ problem, host.files.read path.text = .error problem := by
    unfold FileTree.read
    split
    · rename_i content found
      obtain ⟨text, listed, _⟩ := (mirrors.find_eq_file_iff single).mp found
      simp [unlisted] at listed
    · exact ⟨_, rfl⟩
    · exact ⟨_, rfl⟩
  obtain ⟨problem, absent⟩ := absent
  unfold readText
  simp only [Action.bind_apply, Action.get, absent, HostAction.ofExcept]
  split
  · exact ⟨.nulInPath, rfl⟩
  · refine ⟨.file problem path.text, ?_⟩
    cases problem <;> rfl

/-- Both load the same text, or both fail. -/
def LoadAlike (outcome other : Outcome Fault Datum) : Prop :=
  (∃ text, outcome = .value (.text text) ∧ other = .value (.text text)) ∨
    ∃ fault problem, outcome = .error fault ∧ other = .error problem

theorem load_of_mirrors (mirrors : host.files.Mirrors files)
    (clean : ∀ text ∈ files.values, '\r' ∉ text.toList)
    (single : path.slashes = 1) (base directory : String) (extensions more : List String)
    (elsewhere : Host) : LoadAlike ((Loader.memory files base extensions).load path.text elsewhere).1
      ((Loader.file directory more).load path.text host).1 := by
  cases listed : files.get? path.text with
  | some text =>
    have reads := readText_listed mirrors listed (clean text (Ordered.mem_values_of_get? listed))
    refine .inl ⟨text, by simp only [load, listed, Action.pure], ?_⟩
    obtain ⟨later, ran⟩ : ∃ later, readText path.text host = (.value text, later) :=
      ⟨_, Prod.ext reads rfl⟩
    simp only [load, Action.bind_apply, ran, Action.pure_apply]
  | none =>
    obtain ⟨problem, reads⟩ := readText_unlisted mirrors single listed
    obtain ⟨later, ran⟩ : ∃ later, readText path.text host = (.error problem, later) :=
      ⟨_, Prod.ext reads rfl⟩
    refine .inr ⟨.noSuchSource path.text, problem, ?_, ?_⟩
    · simp only [load, listed]
      rfl
    · simp only [load, Action.bind_apply, ran]

theorem ofBase_of_normal {base : String} (normal : Path.normalize base = base)
    (single : Path.SingleSlash base.toList) (workingDirectory : String) (extensions : List String) :
    ofBase workingDirectory (some base) extensions = .file base extensions := by
  have absolute : Path.isAbsolute base = true := decide_eq_true single.1
  have filled : base ≠ "" := by
    rintro rfl
    cases single.1
  have same : Path.absolute workingDirectory base = base := by
    rw [Path.absolute, Path.join, FileTree.joinChars_of_absolute absolute, String.ofList_toList, normal]
  have kept : (some base).filter (· ≠ "") = some base := by simp [Option.filter, filled]
  rw [ofBase, kept, Option.getD_some, same]

/-- A loader of a table of files follows a loader of files on a tree that holds exactly these files: every
id resolves to the same path, as seen from any module, and the source of that path is the same text in both,
or cannot be loaded from either of them. -/
theorem memory_follows_file {disk : Host} (mirrors : disk.files.Mirrors files)
    (clean : ∀ text ∈ files.values, '\r' ∉ text.toList) {base : String}
    (normal : Path.normalize base = base) (single : Path.SingleSlash base.toList)
    {extensions : List String} (slashless : Slashless extensions) {id : String}
    (rooted : Path.rootSlashes id.toList ≠ 2) {asking : Option ModuleRecord}
    (named : ∀ record ∈ asking, ∀ name ∈ record.filename, Path.SingleSlash name.toList)
    (workingDirectory : String) :
    ∃ path,
      ((Loader.memory files base extensions).resolve id (asking.bind ModuleRecord.directory) host).1 =
        .value path ∧
      ((ofBase workingDirectory (some base) extensions).resolve id (asking.bind ModuleRecord.directory)
        disk).1 = .value path ∧
      ∀ elsewhere later : Host, later.files = disk.files →
        LoadAlike ((Loader.memory files base extensions).load path elsewhere).1
          ((ofBase workingDirectory (some base) extensions).load path later).1 := by
  have below : Path.SingleSlash ((asking.bind ModuleRecord.directory).getD base).toList := by
    cases seen : asking.bind ModuleRecord.directory with
    | none => exact single
    | some directory =>
      obtain ⟨record, asks, has⟩ := Option.bind_eq_some_iff.mp seen
      obtain ⟨name, filed, rfl⟩ := Option.map_eq_some_iff.mp has
      have ofFile := (Option.filter_eq_some_iff.mp filed).1
      have within := (named record asks name ofFile).directory
      simpa [Path.directory] using within
  obtain ⟨located, one, same⟩ := Path.exists_locate_single below rooted
  have found := Probe.find?_of_mirrors mirrors slashless one
  rw [ofBase_of_normal normal single, resolve_file, pathOf, same, ← found]
  refine ⟨((Probe.ofTable files).find? extensions located.text).getD located.text, ?_, rfl, ?_⟩
  · simp only [resolve, pathOf, same, Action.pure]
  · intro elsewhere later unchanged
    have kept : later.files.Mirrors files := unchanged ▸ mirrors
    cases hit : (Probe.ofTable files).find? extensions located.text with
    | none => exact load_of_mirrors kept clean one base base extensions extensions elsewhere
    | some name =>
      obtain ⟨text, listed⟩ := Option.isSome_iff_exists.mp (Probe.isFile_of_find? hit)
      obtain ⟨path, canHold, rfl⟩ := mirrors.named name (Ordered.mem_keys_of_get? listed)
      exact load_of_mirrors kept clean canHold.single base base extensions extensions elsewhere

/-- A package that is a directory with an index file. -/
def packaged : Ordered String := .ofList [("/lib/index.py", "exports.n = 1\n")]

theorem mirrors_packaged : (FileTree.ofTable packaged).Mirrors packaged := by
  have listed (name : String) : name ∈ packaged.keys ↔ name = "/lib/index.py" := by
    simp [packaged, Ordered.keys, Ordered.ofList, Ordered.set, Ordered.place, Ordered.empty]
  refine FileTree.mirrors_ofTable packaged (fun name member => ?_) fun path other one two => ?_
  · obtain rfl := (listed name).mp member
    refine ⟨⟨1, ["lib".toList, "index.py".toList], .inl rfl, ?_⟩, ⟨rfl, ?_, ?_, ?_⟩, by simp, rfl⟩
    · intro segment inside
      rcases List.mem_pair.mp inside with rfl | rfl
      · exact ⟨by decide, by decide, by decide, by decide⟩
      · exact ⟨by decide, by decide, by decide, by decide⟩
    · decide
    · decide
    · decide
  · have same : path.text = other.text := ((listed _).mp one).trans ((listed _).mp two).symm
    obtain rfl : path = other := NormalPath.text_inj same
    exact NormalPath.LiesBelow.irrefl path

theorem packaged_follows :
    ∃ path,
      ((Loader.memory packaged "/" [".py"]).resolve "./lib"
        ((none : Option ModuleRecord).bind ModuleRecord.directory) .empty).1 = .value path ∧
      ((ofBase "/" (some "/") [".py"]).resolve "./lib"
        ((none : Option ModuleRecord).bind ModuleRecord.directory)
        { Host.empty with files := FileTree.ofTable packaged }).1 = .value path ∧
      ∀ elsewhere later : Host, later.files = FileTree.ofTable packaged →
        LoadAlike ((Loader.memory packaged "/" [".py"]).load path elsewhere).1
          ((ofBase "/" (some "/") [".py"]).load path later).1 :=
  have mirrors : ({ Host.empty with files := FileTree.ofTable packaged } : Host).files.Mirrors packaged :=
    mirrors_packaged
  memory_follows_file mirrors (by decide) (by decide) (by decide) (by unfold Slashless; decide)
    (by decide) (by simp) "/"

end Loader

end ModuleSystem
