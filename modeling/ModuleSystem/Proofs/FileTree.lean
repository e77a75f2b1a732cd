import ModuleSystem.Loader.Probe
import ModuleSystem.Proofs.Path

/-! # Where paths lead

A path leads to a place in a tree of files: to the segments that are left of it. There are no links, so a
path that leads somewhere leads where its normal form does, and a normal path leads to its own segments. -/

namespace ModuleSystem

open ModuleSystem.Path (IsPlain NormalPath pushAll)

namespace FileTree

variable {tree : FileTree} {stack segments : List (List Char)} {node : FileNode}

/-- Directories lead from the root to a node, whose place is a stack of segments, the last one on top. -/
inductive Leads (tree : FileTree) : List (List Char) → FileNode → Prop
  | root : Leads tree [] .directory
  | step {stack : List (List Char)} {segment : List Char} {node : FileNode}
      (outer : Leads tree stack .directory) (plain : IsPlain segment)
      (short : (Text.encodeUtf8 segment).length ≤ segmentLimit)
      (there : tree.nodeAt? (segment :: stack) = some node) : Leads tree (segment :: stack) node

namespace Leads

theorem plain (leads : Leads tree stack node) : ∀ segment ∈ stack, IsPlain segment := by
  induction leads with
  | root => simp
  | step _ plain _ _ ih => exact List.forall_mem_cons.mpr ⟨plain, ih⟩

theorem tail (leads : Leads tree stack node) : Leads tree stack.tail .directory := by
  cases leads with
  | root => exact .root
  | step outer => exact outer

theorem nodeAt? (leads : Leads tree stack node) : tree.nodeAt? stack = some node := by
  cases leads with
  | root => rfl
  | step _ _ _ there => exact there

end Leads

/-- A segment that is followed leads to a node at the stack that it is pushed onto. -/
theorem leads_of_follow_cons {segment : List Char} {reached : List (List Char) × FileNode}
    (leads : Leads tree stack .directory) (slashless : '/' ∉ segment)
    (followed : follow tree stack .directory (segment :: segments) = .ok reached) :
    ∃ next, Leads tree (Path.pushSegment true stack segment) next ∧
      follow tree (Path.pushSegment true stack segment) next segments = .ok reached := by
  rw [Path.pushSegment_of_plain leads.plain]
  simp only [follow, staysHere, Bool.or_eq_true, decide_eq_true_eq] at followed
  split at followed
  · rename_i stays
    rw [if_pos stays]
    exact ⟨.directory, leads, followed⟩
  · rename_i moves
    rw [if_neg moves]
    split at followed
    · rename_i back
      rw [if_pos back]
      exact ⟨.directory, leads.tail, followed⟩
    · rename_i down
      rw [if_neg down]
      split at followed
      · cases followed
      · rename_i short
        split at followed
        · cases followed
        · rename_i next there
          have plain : IsPlain segment :=
            ⟨fun same => moves (.inl same), fun same => moves (.inr same), down, slashless⟩
          exact ⟨next, leads.step plain (Nat.le_of_not_gt short) there, followed⟩

/-- Whatever is followed leads to a node, whose place are the segments that are left. -/
theorem leads_of_follow {last : List (List Char)} {found : FileNode} (leads : Leads tree stack node)
    (slashless : ∀ segment ∈ segments, '/' ∉ segment)
    (followed : follow tree stack node segments = .ok (last, found)) :
    Leads tree last found ∧ last = pushAll stack segments := by
  induction segments generalizing stack node with
  | nil =>
    cases followed
    exact ⟨leads, rfl⟩
  | cons segment rest ih =>
    cases node with
    | file => cases followed
    | directory =>
      obtain ⟨next, onward, goes⟩ := leads_of_follow_cons leads (slashless segment (by simp)) followed
      exact ih onward (fun other member => slashless other (by simp [member])) goes

/-- What leads to a node is followed from the root. -/
theorem follow_of_leads (leads : Leads tree stack node) (rest : List (List Char)) :
    follow tree [] .directory (stack.reverse ++ rest) = follow tree stack node rest := by
  induction leads generalizing rest with
  | root => rfl
  | @step stack segment node outer plain short there ih =>
    rw [List.reverse_cons, List.append_assoc, ih]
    have moves : staysHere segment = false := by simp [staysHere, plain.nonempty, plain.ne_here]
    simp only [List.singleton_append, follow, moves, Bool.false_eq_true, if_false,
      if_neg plain.ne_above, if_neg (Nat.not_lt.mpr short), there]

theorem follow_replicate (n : Nat) (rest : List (List Char)) :
    follow tree stack .directory (List.replicate n [] ++ rest) = follow tree stack .directory rest := by
  induction n with
  | zero => rfl
  | succ n ih => exact ih

/-! ## Regular files -/

/-- The place of the regular file that a path leads to, as segments from the root. -/
def place? (tree : FileTree) (path : String) : Option (List (List Char)) :=
  if tree.isFile path then
    match follow tree [] .directory
        (Text.splitAt '/' (Path.joinChars tree.workingDirectory.toList path.toList)) with
    | .ok (stack, _) => some stack.reverse
    | .error _ => none
  else none

theorem joinChars_of_absolute {path : String} (absolute : Path.isAbsolute path = true)
    (base : List Char) : Path.joinChars base path.toList = path.toList :=
  if_pos (of_decide_eq_true absolute)

theorem isFile_iff {path : String} : tree.isFile path = true ↔
    hasNul path = false ∧ ∃ content, tree.find path = .ok (.file content) := by
  unfold isFile
  cases tree.find path with
  | error problem => simp
  | ok node => cases node <;> simp

theorem isFile_of_read {path : String} {content : List UInt8} (clean : hasNul path = false)
    (held : tree.read path = .ok content) : tree.isFile path = true := by
  refine isFile_iff.mpr ⟨clean, ?_⟩
  unfold read at held
  split at held
  · exact ⟨_, ‹_›⟩
  · cases held
  · cases held

theorem isDirectory_iff {path : String} : tree.isDirectory path = true ↔
    hasNul path = false ∧ tree.find path = .ok .directory := by
  unfold isDirectory
  cases tree.find path with
  | error problem => simp
  | ok node => cases node <;> simp

/-- A path to a file is short, and following it leads to the file. -/
theorem follow_of_isFile {path : String} (absolute : Path.isAbsolute path = true)
    (file : tree.isFile path = true) :
    hasNul path = false ∧ (Text.encodeUtf8 path.toList).length < pathLimit ∧
      ∃ stack content, follow tree [] .directory (path.toList.splitOn '/') =
        .ok (stack, .file content) := by
  obtain ⟨nul, content, found⟩ := isFile_iff.mp file
  unfold find at found
  dsimp only at found
  rw [joinChars_of_absolute absolute, Text.splitAt_eq_splitOn] at found
  split at found
  · cases found
  · split at found
    · cases found
    · rename_i short
      refine ⟨nul, Nat.lt_of_not_ge short, ?_⟩
      cases followed : follow tree [] .directory (path.toList.splitOn '/') with
      | error problem =>
        rw [followed] at found
        cases found
      | ok reached =>
        rw [followed] at found
        obtain ⟨stack, node⟩ := reached
        cases found
        exact ⟨stack, content, rfl⟩

/-- A path to a file leads to the place that is left when its segments are read. -/
theorem place?_of_isFile {path : String} (absolute : Path.isAbsolute path = true)
    (file : tree.isFile path = true) :
    tree.place? path = some (pushAll [] (path.toList.splitOn '/')).reverse ∧
      ∃ content, Leads tree (pushAll [] (path.toList.splitOn '/')) (.file content) := by
  obtain ⟨_, _, stack, content, followed⟩ := follow_of_isFile absolute file
  obtain ⟨leads, rfl⟩ := leads_of_follow .root (fun _ => Text.notMem_of_mem_splitOn) followed
  refine ⟨?_, content, leads⟩
  unfold place?
  rw [if_pos file, joinChars_of_absolute absolute, Text.splitAt_eq_splitOn, followed]

theorem isFile_of_place? {path : String} {place : List (List Char)}
    (found : tree.place? path = some place) : tree.isFile path = true := by
  unfold place? at found
  split at found
  · assumption
  · cases found

/-- A normal path to a file leads to the place that it spells. -/
theorem place?_normal {path : NormalPath} (file : tree.isFile path.text = true) :
    tree.place? path.text = some path.segments ∧
      ∃ content, tree.nodeAt? path.segments.reverse = some (.file content) := by
  obtain ⟨place, content, leads⟩ := place?_of_isFile path.isAbsolute_text file
  rw [NormalPath.toList_text, path.pushAll_chars] at place leads
  rw [List.reverse_reverse] at place
  exact ⟨place, content, leads.nodeAt?⟩

/-- A normal path is followed along its segments. -/
theorem find_normal {path : NormalPath} (short : (Text.encodeUtf8 path.chars).length < pathLimit) :
    tree.find path.text = (follow tree [] .directory path.segments).map Prod.snd := by
  have filled : path.text.isEmpty = false := by
    rw [String.isEmpty_eq_false_iff, ne_eq, ← String.toList_eq_nil_iff, NormalPath.toList_text]
    exact fun none => by simpa [none] using path.head?_chars
  obtain ⟨n, pieces⟩ := path.splitOn_chars
  unfold find
  dsimp only
  rw [joinChars_of_absolute path.isAbsolute_text, Text.splitAt_eq_splitOn, NormalPath.toList_text,
    pieces, follow_replicate, filled, if_neg (by simp), if_neg (Nat.not_le.mpr short)]

theorem isDirectory_root {path : NormalPath} (root : path.segments = []) :
    tree.isDirectory path.text = true := by
  have chars : path.chars = ['/'] ∨ path.chars = ['/', '/'] := by
    rw [path.chars_eq, root]
    rcases path.rooted with one | two
    · exact .inl (by simp [one])
    · exact .inr (by simp [two, List.replicate_succ])
  have short : (Text.encodeUtf8 path.chars).length < pathLimit := by
    rcases chars with one | two
    · rw [one]
      decide
    · rw [two]
      decide
  have clean : hasNul path.text = false := by
    rcases chars with one | two
    · simp [hasNul, one]
    · simp [hasNul, two]
  unfold isDirectory
  rw [find_normal short, root, clean]
  rfl

theorem length_encodeUtf8_le {few more : List Char} (sub : few.Sublist more) :
    (Text.encodeUtf8 few).length ≤ (Text.encodeUtf8 more).length := by
  induction sub with
  | slnil => exact le_rfl
  | cons c _ ih =>
    simp only [Text.encodeUtf8, List.flatMap_cons, List.length_append] at ih ⊢
    omega
  | cons_cons c _ ih =>
    simp only [Text.encodeUtf8, List.flatMap_cons, List.length_append] at ih ⊢
    omega

/-- The normal form of a path to a file is a path to the same file. -/
theorem isFile_normalize {path : String} (absolute : Path.isAbsolute path = true)
    (file : tree.isFile path = true) : tree.isFile (Path.normalize path) = true := by
  obtain ⟨nul, short, _⟩ := follow_of_isFile absolute file
  obtain ⟨_, content, leads⟩ := place?_of_isFile absolute file
  obtain ⟨normal, same, segments, sub⟩ := Path.exists_normalize absolute
  have whole := follow_of_leads leads []
  rw [List.append_nil, ← segments] at whole
  rw [same]
  refine isFile_iff.mpr ⟨?_, content, ?_⟩
  · have clean : '\x00' ∉ path.toList := by simpa [hasNul] using nul
    simpa [hasNul] using fun member => clean (sub.subset member)
  · rw [find_normal ((length_encodeUtf8_le sub).trans_lt short), whole]
    rfl

end FileTree

end ModuleSystem
