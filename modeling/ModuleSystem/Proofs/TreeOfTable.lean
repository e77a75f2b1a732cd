import ModuleSystem.Proofs.Mirror

/-! # The tree of a table

Writing the files of a table one after the other makes a tree that mirrors it, if a tree can hold each of
them and none lies below another one. -/

namespace ModuleSystem

open ModuleSystem.Path (NormalPath IsPlain)

namespace FileTree

variable {tree : FileTree} {files : Ordered String} {stack other : List (List Char)}

theorem text_eq_pathOf {path : NormalPath} (single : path.slashes = 1) :
    path.text = pathOf path.segments.reverse := by
  rw [NormalPath.text, path.chars_eq, pathOf, List.reverse_reverse, Text.joinWith_eq_intercalate, single]
  rfl

/-- Different places have different paths. -/
theorem pathOf_inj (plain : ∀ segment ∈ stack, IsPlain segment)
    (others : ∀ segment ∈ other, IsPlain segment) (same : pathOf stack = pathOf other) : stack = other := by
  let path : NormalPath :=
    ⟨1, stack.reverse, .inl rfl, fun s member => plain s (List.mem_reverse.mp member)⟩
  let second : NormalPath :=
    ⟨1, other.reverse, .inl rfl, fun s member => others s (List.mem_reverse.mp member)⟩
  have texts : path.text = second.text := by
    rw [text_eq_pathOf rfl, text_eq_pathOf rfl, List.reverse_reverse, List.reverse_reverse, same]
  have equal : path = second := NormalPath.text_inj texts
  exact List.reverse_injective (congrArg NormalPath.segments equal)

theorem nodeAt?_set (plain : ∀ segment ∈ stack, IsPlain segment)
    (others : ∀ segment ∈ other, IsPlain segment) (deep : stack ≠ []) (node : FileNode) :
    ({ tree with nodes := tree.nodes.set (pathOf stack) node } : FileTree).nodeAt? other =
      if other = stack then some node else tree.nodeAt? other := by
  cases other with
  | nil => simp [nodeAt?, deep.symm]
  | cons segment outer =>
    simp only [nodeAt?, Ordered.get?_set]
    by_cases same : segment :: outer = stack
    · simp [same]
    · rw [if_neg same, if_neg fun equal => same (pathOf_inj others plain equal)]

/-- Making directories makes the ones that are missing. -/
theorem nodeAt?_makeDirectories (plain : ∀ segment ∈ stack, IsPlain segment)
    (others : ∀ segment ∈ other, IsPlain segment) :
    (tree.makeDirectories stack).nodeAt? other =
      (tree.nodeAt? other).or (if other <:+ stack then some .directory else none) := by
  induction stack generalizing other with
  | nil =>
    cases other with
    | nil => rfl
    | cons segment outer => simp [makeDirectories]
  | cons segment outer ih =>
    have tail : ∀ s ∈ outer, IsPlain s := fun s member => plain s (List.mem_cons_of_mem _ member)
    have longer : ¬ segment :: outer <:+ outer := fun short => by
      have bound := short.length_le
      simp only [List.length_cons] at bound
      omega
    have whole := ih tail plain
    rw [if_neg longer, Option.or_none] at whole
    simp only [List.suffix_cons_iff, makeDirectories, whole]
    cases there : tree.nodeAt? (segment :: outer) with
    | some node =>
      dsimp only
      rw [ih tail others]
      by_cases same : other = segment :: outer
      · simp [same, there]
      · simp [same]
    | none =>
      dsimp only
      rw [nodeAt?_set plain others (by simp)]
      by_cases same : other = segment :: outer
      · simp [same, there]
      · simp [same, ih tail others]

/-- A normal path stands for the stack of its segments, wherever the working directory is. -/
theorem stackOf_text (path : NormalPath) : tree.stackOf path.text = path.segments.reverse := by
  have rooted : decide (0 < Path.rootSlashes path.chars) = true := by
    rcases (Path.rootSlashes_cases path.head?_chars).1 with one | two
    · simp [one]
    · simp [two]
  rw [stackOf, joinChars_of_absolute path.isAbsolute_text, NormalPath.toList_text, Path.normalSegments,
    rooted, Text.splitAt_eq_splitOn, List.reverse_reverse]
  exact path.pushAll_chars

theorem reverse_plain (path : NormalPath) : ∀ segment ∈ path.segments.reverse, IsPlain segment :=
  fun segment member => path.plain segment (List.mem_reverse.mp member)

/-- Writing a file puts it where its path leads, and makes the directories above it that are missing. -/
theorem nodeAt?_write (tree : FileTree) {path : NormalPath} (deep : path.segments ≠ [])
    (others : ∀ segment ∈ other, IsPlain segment) (content : List UInt8) :
    (tree.write path.text content).nodeAt? other =
      if other = path.segments.reverse then some (.file content)
      else (tree.nodeAt? other).or
        (if other <:+ path.segments.reverse.tail then some .directory else none) := by
  have plain := reverse_plain path
  have above : ∀ segment ∈ path.segments.reverse.tail, IsPlain segment :=
    fun segment member => plain segment (List.mem_of_mem_tail member)
  simp only [write, stackOf_text]
  rw [nodeAt?_set plain others (by simpa using deep), nodeAt?_makeDirectories above others]

theorem suffix_tail_iff {path outer : NormalPath} (same : path.slashes = outer.slashes) :
    outer.segments.reverse <:+ path.segments.reverse.tail ∧ path.segments ≠ [] ↔
      path.LiesBelow outer := by
  constructor
  · rintro ⟨⟨before, split⟩, deep⟩
    cases stack : path.segments.reverse with
    | nil => exact absurd (List.reverse_eq_nil_iff.mp stack) deep
    | cons top rest =>
      rw [stack, List.tail_cons] at split
      refine ⟨same, (top :: before).reverse, by simp, List.reverse_injective ?_⟩
      rw [stack, ← split]
      simp
  · rintro ⟨_, rest, filled, segments⟩
    obtain ⟨init, last, rfl⟩ := (List.eq_nil_or_concat rest).resolve_left filled
    rw [segments]
    exact ⟨⟨init.reverse, by simp⟩, by simp⟩

theorem nodeAt?_write_self (tree : FileTree) {path : NormalPath} (deep : path.segments ≠ [])
    (content : List UInt8) :
    (tree.write path.text content).nodeAt? path.segments.reverse = some (.file content) := by
  rw [nodeAt?_write tree deep (reverse_plain path), if_pos rfl]

/-- Elsewhere there is what has been there before, or else a directory if the file lies below. -/
theorem nodeAt?_write_of_ne {path outer : NormalPath} (single : path.slashes = 1)
    (alsoSingle : outer.slashes = 1) (deep : path.segments ≠ []) (differs : outer.text ≠ path.text)
    {content : List UInt8} {node : FileNode} :
    (tree.write path.text content).nodeAt? outer.segments.reverse = some node ↔
      tree.nodeAt? outer.segments.reverse = some node ∨
        tree.nodeAt? outer.segments.reverse = none ∧ path.LiesBelow outer ∧ node = .directory := by
  have elsewhere : outer.segments.reverse ≠ path.segments.reverse := by
    intro same
    refine differs ?_
    rw [text_eq_pathOf single, text_eq_pathOf alsoSingle, same]
  rw [nodeAt?_write tree deep (reverse_plain outer), if_neg elsewhere, Option.or_eq_some_iff,
    ← suffix_tail_iff (single.trans alsoSingle.symm)]
  simp [deep, eq_comm]

namespace Mirrors

/-- The tree that holds the root alone mirrors the empty table. -/
theorem empty : FileTree.empty.Mirrors .empty := by
  have nothing (path : NormalPath) (deep : path.segments ≠ []) :
      FileTree.empty.nodeAt? path.segments.reverse = none := by
    cases stack : path.segments.reverse with
    | nil => exact absurd (List.reverse_eq_nil_iff.mp stack) deep
    | cons => rfl
  refine ⟨fun name member => (by cases member), fun path _ content => ?_, fun path _ deep => ?_⟩
  · by_cases root : path.segments = []
    · simp [root, nodeAt?, Ordered.get?, Ordered.empty, Ordered.find?]
    · simp [nothing path root, Ordered.get?, Ordered.empty, Ordered.find?]
  · rw [nothing path deep]
    simp [Ordered.keys, Ordered.empty]

/-- Where the table has no file there is a directory or nothing. -/
theorem directory_or_none (mirrors : tree.Mirrors files) {path : NormalPath} (single : path.slashes = 1)
    (unlisted : path.text ∉ files.keys) :
    tree.nodeAt? path.segments.reverse = some .directory ∨ tree.nodeAt? path.segments.reverse = none := by
  cases known : tree.nodeAt? path.segments.reverse with
  | none => exact .inr rfl
  | some node =>
    cases node with
    | directory => exact .inl rfl
    | file content =>
      obtain ⟨text, listed, _⟩ := (mirrors.file path single content).mp known
      exact absurd (Ordered.mem_keys_of_get? listed) unlisted

section

variable {path : NormalPath} (canHold : CanHold path) (deep : path.segments ≠ []) (text : String)
  (apart : ∀ other : NormalPath, other.text ∈ files.keys → ¬ other.LiesBelow path ∧ ¬ path.LiesBelow other)

include canHold deep apart

theorem directory_write (mirrors : tree.Mirrors files) {outer : NormalPath} (single : outer.slashes = 1)
    (inner : outer.segments ≠ []) :
    (tree.write path.text (Text.encodeUtf8 text.toList)).nodeAt? outer.segments.reverse = some .directory ↔
      ∃ below : NormalPath, below.LiesBelow outer ∧ below.text ∈ (files.set path.text text).keys := by
  simp only [Ordered.mem_keys_set]
  by_cases same : outer.text = path.text
  · obtain rfl := NormalPath.text_inj same
    rw [nodeAt?_write_self tree deep]
    refine iff_of_false nofun ?_
    rintro ⟨below, lies, old | new⟩
    · exact (apart below old).1 lies
    · obtain rfl := NormalPath.text_inj new
      exact NormalPath.LiesBelow.irrefl below lies
  · rw [nodeAt?_write_of_ne canHold.single single deep same, mirrors.directory outer single inner]
    constructor
    · rintro (⟨below, lies, old⟩ | ⟨_, lies, _⟩)
      · exact ⟨below, lies, .inl old⟩
      · exact ⟨path, lies, .inr rfl⟩
    · rintro ⟨below, lies, old | new⟩
      · exact .inl ⟨below, lies, old⟩
      · obtain rfl := NormalPath.text_inj new
        rcases mirrors.directory_or_none single fun listed => (apart outer listed).2 lies with known | absent
        · exact .inl ((mirrors.directory outer single inner).mp known)
        · exact .inr ⟨absent, lies, rfl⟩

/-- A file that is neither above nor below the others can be written next to them. -/
theorem write (mirrors : tree.Mirrors files) :
    (tree.write path.text (Text.encodeUtf8 text.toList)).Mirrors (files.set path.text text) := by
  refine ⟨fun name member => ?named, fun other single content => ?file, fun other single inner =>
    mirrors.directory_write canHold deep text apart single inner⟩
  case named =>
    rcases Ordered.mem_keys_set.mp member with old | rfl
    · exact mirrors.named name old
    · exact ⟨path, canHold, rfl⟩
  case file =>
    rw [Ordered.get?_set]
    by_cases same : other.text = path.text
    · obtain rfl := NormalPath.text_inj same
      rw [nodeAt?_write_self tree deep]
      simp [eq_comm]
    · rw [nodeAt?_write_of_ne canHold.single single deep same, if_neg same,
        ← mirrors.file other single content]
      simp

end

end Mirrors

/-- The tree of the files of a table. -/
def ofTable (files : Ordered String) : FileTree :=
  files.entries.foldl (fun tree entry => tree.write entry.1 (Text.encodeUtf8 entry.2.toList)) empty

/-- Every table of files that a tree can hold, none of them below another one, has a tree. -/
theorem mirrors_ofTable (files : Ordered String)
    (held : ∀ name ∈ files.keys, ∃ path, CanHold path ∧ path.segments ≠ [] ∧ name = path.text)
    (apart : ∀ path other : NormalPath, path.text ∈ files.keys → other.text ∈ files.keys →
      ¬ path.LiesBelow other) :
    (ofTable files).Mirrors files := by
  obtain ⟨entries, distinct⟩ := files
  induction entries using List.reverseRecOn with
  | nil => exact .empty
  | append_singleton entries last ih =>
    obtain ⟨name, text⟩ := last
    have split := distinct
    rw [List.map_append, List.nodup_append] at split
    obtain ⟨before, _, others⟩ := split
    have fresh : name ∉ entries.map Prod.fst := fun member => others name member name (by simp) rfl
    have whole : (⟨entries ++ [(name, text)], distinct⟩ : Ordered String) =
        Ordered.set ⟨entries, before⟩ name text := by
      simp only [Ordered.set, Ordered.place_of_notMem fresh]
    have listed : ∀ key ∈ entries.map Prod.fst, key ∈ (entries ++ [(name, text)]).map Prod.fst :=
      fun key member => by simp [List.mem_map.mp member]
    have smaller := ih before (fun key member => held key (listed key member))
      fun path other one two => apart path other (listed _ one) (listed _ two)
    obtain ⟨path, canHold, deep, rfl⟩ := held name (by simp [Ordered.keys])
    have grown : ofTable ⟨entries ++ [(path.text, text)], distinct⟩ =
        (ofTable ⟨entries, before⟩).write path.text (Text.encodeUtf8 text.toList) :=
      List.foldl_concat ..
    rw [grown, whole]
    refine smaller.write canHold deep text fun other old => ⟨?_, ?_⟩
    · exact apart other path (listed _ old) (by simp [Ordered.keys])
    · exact apart path other (by simp [Ordered.keys]) (listed _ old)

end FileTree

end ModuleSystem
