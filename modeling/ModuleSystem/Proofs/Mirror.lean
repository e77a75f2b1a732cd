import Mathlib.Data.List.Find
import ModuleSystem.Proofs.FileLoader

/-! # Trees that hold the files of a table

A tree mirrors a table of files if its regular files are those of the table, as UTF-8, and its directories
are the ones that lead to them. Then the tree and the table answer every question about a path with one
leading slash alike, but for the root of an empty table, and a module is found in both at the same path. -/

namespace ModuleSystem

open ModuleSystem.Path (NormalPath IsPlain)

namespace FileTree

variable {tree : FileTree} {files : Ordered String}

/-- A path under which a tree can keep a file. -/
structure CanHold (path : NormalPath) : Prop where
  single : path.slashes = 1
  clean : '\x00' ∉ path.chars
  short : (Text.encodeUtf8 path.chars).length < pathLimit
  segments : ∀ segment ∈ path.segments, (Text.encodeUtf8 segment).length ≤ segmentLimit

/-- The tree holds exactly the files of a table, as UTF-8, and the directories that lead to them. -/
structure Mirrors (tree : FileTree) (files : Ordered String) : Prop where
  named : ∀ name ∈ files.keys, ∃ path : NormalPath, CanHold path ∧ name = path.text
  file : ∀ path : NormalPath, path.slashes = 1 → ∀ content,
    tree.nodeAt? path.segments.reverse = some (.file content) ↔
      ∃ text, files.get? path.text = some text ∧ content = Text.encodeUtf8 text.toList
  directory : ∀ path : NormalPath, path.slashes = 1 → path.segments ≠ [] →
    (tree.nodeAt? path.segments.reverse = some .directory ↔
      ∃ inner : NormalPath, inner.LiesBelow path ∧ inner.text ∈ files.keys)

/-- A normal path leads to a node if it is short and directories lead there. -/
theorem find_eq_ok_iff {path : NormalPath} {node : FileNode} : tree.find path.text = .ok node ↔
    (Text.encodeUtf8 path.chars).length < pathLimit ∧ Leads tree path.segments.reverse node := by
  by_cases short : (Text.encodeUtf8 path.chars).length < pathLimit
  · rw [find_normal short]
    have slashless : ∀ segment ∈ path.segments, '/' ∉ segment :=
      fun segment member => (path.plain segment member).slashless
    constructor
    · intro found
      cases followed : follow tree [] .directory path.segments with
      | error problem =>
        rw [followed] at found
        cases found
      | ok reached =>
        rw [followed] at found
        obtain ⟨stack, other⟩ := reached
        cases found
        obtain ⟨leads, same⟩ := leads_of_follow .root slashless followed
        rw [Path.pushAll_of_plain [] (by simp) path.plain, List.append_nil] at same
        exact ⟨short, same ▸ leads⟩
    · rintro ⟨_, leads⟩
      have whole := follow_of_leads leads []
      rw [List.append_nil, List.reverse_reverse] at whole
      rw [whole]
      rfl
  · simp only [short, false_and, iff_false]
    intro found
    have filled : path.text.isEmpty = false := by
      rw [String.isEmpty_eq_false_iff, ne_eq, ← String.toList_eq_nil_iff, NormalPath.toList_text]
      exact fun none => by simpa [none] using path.head?_chars
    simp [find, filled, Nat.le_of_not_lt short] at found

end FileTree

theorem Probe.isDirectory_ofTable_iff {files : Ordered String} {path : NormalPath}
    (deep : path.segments ≠ []) : (Probe.ofTable files).isDirectory path.text = true ↔
      ∃ name ∈ files.keys, ∃ more, name.toList = path.chars ++ '/' :: more := by
  have ends : path.chars.rdropWhile (· = '/') = path.chars :=
    List.rdropWhile_eq_self_iff.mpr fun filled slash =>
      path.getLast?_chars deep (by simpa [List.getLast?_eq_some_getLast filled] using slash)
  have start : withSlash path.text = path.chars ++ ['/'] := by
    rw [withSlash, NormalPath.toList_text]
    exact congrArg (· ++ ['/']) ends
  simp [ofTable, start, Option.isSome_iff_exists, Text.after?_eq_some_iff]

/-- The root of a table that has a file with an absolute path is a directory. -/
theorem Probe.isDirectory_root {files : Ordered String} {path : NormalPath} (root : path.segments = [])
    {file : String} (listed : file ∈ files.keys) (absolute : Path.isAbsolute file = true) :
    (Probe.ofTable files).isDirectory path.text = true := by
  have start : withSlash path.text = ['/'] := by
    rw [withSlash, NormalPath.toList_text, path.chars_eq, root]
    rcases path.rooted with one | two
    · rw [one]
      rfl
    · rw [two]
      rfl
  obtain ⟨more, chars⟩ := List.head?_eq_some_iff.mp (of_decide_eq_true absolute)
  refine List.any_eq_true.mpr ⟨file, listed, ?_⟩
  rw [start, chars]
  rfl

/-- In a table a root is a directory if anything stands directly behind its slashes. -/
theorem Probe.keepsRoots_ofTable (files : Ordered String) : (Probe.ofTable files).KeepsRoots := by
  intro root bottom elsewhere extension
  cases known : files.get? (root.text ++ extension) with
  | none => simp [ofTable, Ordered.contains, known]
  | some text =>
    have absolute : Path.isAbsolute (root.text ++ extension) = true := by
      have slash := root.head?_chars
      simp [Path.isAbsolute, slash]
    have directory := isDirectory_root bottom (Ordered.mem_keys_of_get? known) absolute
    exact absurd (directory.symm.trans elsewhere) (by simp)

namespace FileTree

namespace Mirrors

variable {tree : FileTree} {files : Ordered String} (mirrors : tree.Mirrors files)

include mirrors

/-- A normal path in the table is one under which a tree can keep a file. -/
theorem canHold {path : NormalPath} (listed : path.text ∈ files.keys) : CanHold path := by
  obtain ⟨other, canHold, same⟩ := mirrors.named path.text listed
  have chars : path.chars = other.chars := by
    rw [← NormalPath.toList_text, same, NormalPath.toList_text]
  exact NormalPath.chars_inj chars ▸ canHold

/-- Directories lead to whatever lies above a file of the table. -/
theorem leads_above {path : NormalPath} (listed : path.text ∈ files.keys)
    {before after : List (List Char)} (split : path.segments = before ++ after) (deeper : after ≠ []) :
    Leads tree before.reverse .directory := by
  have canHold := mirrors.canHold listed
  induction before using List.reverseRecOn generalizing after with
  | nil => exact .root
  | append_singleton outer segment ih =>
    have within : ∀ other ∈ outer ++ [segment], other ∈ path.segments := by
      intro other member
      rw [split]
      exact List.mem_append_left _ member
    have outside : path.segments = outer ++ segment :: after := by simpa using split
    have above := ih outside (List.cons_ne_nil segment after)
    rw [List.reverse_append, List.reverse_singleton, List.singleton_append]
    have plain := path.plain segment (within segment (by simp))
    refine above.step plain (canHold.segments segment (within segment (by simp))) ?_
    let here : NormalPath :=
      ⟨1, outer ++ [segment], .inl rfl, fun other member => path.plain other (within other member)⟩
    have directory := (mirrors.directory here rfl (by simp [here])).mpr
      ⟨path, ⟨canHold.single, after, deeper, split⟩, listed⟩
    simpa [here] using directory

/-- A file of the table is where its path leads. -/
theorem find_file {path : NormalPath} {text : String} (listed : files.get? path.text = some text) :
    tree.find path.text = .ok (.file (Text.encodeUtf8 text.toList)) := by
  have key := Ordered.mem_keys_of_get? listed
  have canHold := mirrors.canHold key
  have there := (mirrors.file path canHold.single _).mpr ⟨text, listed, rfl⟩
  have inner : path.segments ≠ [] := fun root => by simp [root, nodeAt?] at there
  obtain ⟨parent, segment, plain, rfl⟩ := path.eq_child inner
  have above := mirrors.leads_above key rfl (List.cons_ne_nil segment [])
  refine find_eq_ok_iff.mpr ⟨canHold.short, ?_⟩
  simp only [NormalPath.child, List.reverse_append, List.reverse_singleton, List.singleton_append]
    at there ⊢
  exact above.step plain (canHold.segments segment (by simp [NormalPath.child])) there

theorem find_eq_file_iff {path : NormalPath} (single : path.slashes = 1) {content : List UInt8} :
    tree.find path.text = .ok (.file content) ↔
      ∃ text, files.get? path.text = some text ∧ content = Text.encodeUtf8 text.toList := by
  constructor
  · intro found
    exact (mirrors.file path single content).mp (find_eq_ok_iff.mp found).2.nodeAt?
  · rintro ⟨text, listed, rfl⟩
    exact mirrors.find_file listed

/-- A tree and a table agree on what is a file. -/
theorem isFile_eq {path : NormalPath} (single : path.slashes = 1) :
    tree.isFile path.text = files.contains path.text := by
  rw [Bool.eq_iff_iff, isFile_iff, Ordered.contains, Option.isSome_iff_exists]
  constructor
  · rintro ⟨_, content, found⟩
    obtain ⟨text, listed, _⟩ := (mirrors.find_eq_file_iff single).mp found
    exact ⟨text, listed⟩
  · rintro ⟨text, listed⟩
    have canHold := mirrors.canHold (Ordered.mem_keys_of_get? listed)
    exact ⟨by simpa [hasNul] using canHold.clean, _, mirrors.find_file listed⟩

/-- A table whose root is no directory is empty. -/
theorem contains_eq_false {path : NormalPath} (root : path.segments = [])
    (known : (Probe.ofTable files).isDirectory path.text = false) (name : String) :
    files.contains name = false := by
  rw [Bool.eq_false_iff]
  intro listed
  obtain ⟨text, held⟩ := Option.isSome_iff_exists.mp listed
  have key := Ordered.mem_keys_of_get? held
  obtain ⟨file, _, rfl⟩ := mirrors.named name key
  rw [Probe.isDirectory_root root key file.isAbsolute_text] at known
  cases known

/-- A tree and a table agree on what is a directory, but for the root of an empty table. -/
theorem isDirectory_eq {path : NormalPath} (single : path.slashes = 1) (deep : path.segments ≠ []) :
    tree.isDirectory path.text = (Probe.ofTable files).isDirectory path.text := by
  rw [Bool.eq_iff_iff, isDirectory_iff, Probe.isDirectory_ofTable_iff deep]
  constructor
  · rintro ⟨_, found⟩
    obtain ⟨inner, below, listed⟩ :=
      (mirrors.directory path single deep).mp (find_eq_ok_iff.mp found).2.nodeAt?
    obtain ⟨more, split⟩ := (NormalPath.liesBelow_iff below.1 deep).mp below
    exact ⟨inner.text, listed, more, by rw [NormalPath.toList_text, split]⟩
  · rintro ⟨name, listed, more, split⟩
    obtain ⟨inner, canHold, rfl⟩ := mirrors.named name listed
    rw [NormalPath.toList_text] at split
    have sub : path.chars.Sublist inner.chars := split ▸ List.sublist_append_left _ _
    have same : inner.slashes = path.slashes := canHold.single.trans single.symm
    obtain ⟨_, rest, deeper, segments⟩ := (NormalPath.liesBelow_iff same deep).mpr ⟨more, split⟩
    refine ⟨?_, find_eq_ok_iff.mpr ⟨(length_encodeUtf8_le sub).trans_lt canHold.short, ?_⟩⟩
    · simpa [hasNul] using fun member => canHold.clean (sub.subset member)
    · exact mirrors.leads_above listed segments deeper

end Mirrors

end FileTree

namespace Probe

variable {tree : FileTree} {files : Ordered String} {extensions : List String}

/-- A module is found in a table where it is found in a tree of the same files. -/
theorem find?_of_mirrors (mirrors : tree.Mirrors files) (slashless : Slashless extensions)
    {path : NormalPath} (single : path.slashes = 1) :
    (ofTable files).find? extensions path.text = (ofTree tree).find? extensions path.text := by
  have file {other : NormalPath} (one : other.slashes = 1) :
      (ofTable files).isFile other.text = (ofTree tree).isFile other.text :=
    (mirrors.isFile_eq one).symm
  have index : ∀ candidate ∈ extensions.map fun extension => Path.join path.text (indexName ++ extension),
      (ofTable files).isFile candidate = (ofTree tree).isFile candidate := by
    intro candidate member
    obtain ⟨extension, given, rfl⟩ := List.mem_map.mp member
    have same : Path.join path.text (indexName ++ extension) =
        (path.child (slashless.plain_index given)).text := by
      rw [Path.join, NormalPath.toList_text, path.joinChars_eq]
      rfl
    rw [same]
    exact file single
  unfold find?
  rw [file single, List.find?_congr index]
  by_cases root : path.segments = []
  · have directory : (ofTree tree).isDirectory path.text = true := FileTree.isDirectory_root root
    cases known : (ofTable files).isDirectory path.text with
    | true => simp only [directory, if_true]
    | false =>
      -- the table is empty, so that it does not matter which candidates are tried
      have unfound (candidates : List String) : candidates.find? (ofTable files).isFile = none :=
        List.find?_eq_none.mpr fun name _ => by
          simp [ofTable, mirrors.contains_eq_false root known name]
      rw [← List.find?_congr index]
      simp [unfound, directory]
  · have directory : (ofTree tree).isDirectory path.text = (ofTable files).isDirectory path.text :=
      mirrors.isDirectory_eq single root
    have extended : ∀ candidate ∈ extensions.map fun extension => path.text ++ extension,
        (ofTable files).isFile candidate = (ofTree tree).isFile candidate := by
      intro candidate member
      obtain ⟨extension, given, rfl⟩ := List.mem_map.mp member
      obtain ⟨other, chars, slashes⟩ := path.chars_append root (slashless extension given)
      have same : path.text ++ extension = other.text := by
        rw [← String.toList_inj, String.toList_append, NormalPath.toList_text, NormalPath.toList_text,
          chars]
      rw [same]
      exact file (slashes.trans single)
    rw [directory, List.find?_congr extended]

end Probe

end ModuleSystem
