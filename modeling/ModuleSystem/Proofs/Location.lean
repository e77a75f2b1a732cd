import ModuleSystem.Proofs.Path

/-! # Located paths

Below a base with one leading slash an identifier is located at a path in normal form, which is located
there from everywhere. Its segments are those of the identifier read onto the stack of the base, so locating
in two steps is locating the joined path in one. -/

namespace ModuleSystem.Path

/-- How many slashes a path begins with. -/
def leadingSlashes (chars : List Char) : Nat := (chars.takeWhile (· = '/')).length

theorem SingleSlash.of_leadingSlashes {chars : List Char} (one : leadingSlashes chars = 1) :
    SingleSlash chars := by
  unfold leadingSlashes at one
  rcases chars with _ | ⟨c, _ | ⟨d, rest⟩⟩
  · simp at one
  · have slash : c = '/' := by
      by_contra other
      simp [other] at one
    exact ⟨by rw [slash]; rfl, by simp⟩
  · have slash : c = '/' := by
      by_contra other
      simp [other] at one
    refine ⟨by rw [slash]; rfl, fun second => ?_⟩
    have double : d = '/' := by simpa using second
    simp [slash, double] at one

theorem leadingSlashes_of_rootSlashes {chars : List Char} (two : rootSlashes chars = 2) :
    leadingSlashes chars = 2 := by
  unfold rootSlashes at two
  split at two
  · cases two
  · rename_i rest third
    rcases rest with _ | ⟨c, more⟩
    · rfl
    · have other : c ≠ '/' := fun slash => third more (by rw [slash])
      simp [leadingSlashes, other]
  · cases two
  · cases two

/-! ## Reading segments in two steps -/

theorem pushAll_append (stack segments more : List (List Char)) :
    pushAll stack (segments ++ more) = pushAll (pushAll stack segments) more :=
  List.foldl_append

/-- An empty segment is not read. -/
theorem pushAll_concat_nil (stack segments : List (List Char)) :
    pushAll stack (segments ++ [[]]) = pushAll stack segments := by
  rw [pushAll_append]
  rfl

/-- The segments of a joined path are those of the base, and then those of the path. -/
theorem pushAll_joinChars {base path : List Char} (filled : base ≠ [])
    (relative : path.head? ≠ some '/') :
    pushAll [] ((joinChars base path).splitOn '/') =
      pushAll (pushAll [] (base.splitOn '/')) (path.splitOn '/') := by
  unfold joinChars
  rw [if_neg relative]
  split
  · rename_i ends
    have slash : base.getLast? = some '/' := ends.resolve_left (by simpa using filled)
    obtain ⟨front, rfl⟩ := List.getLast?_eq_some_iff.mp slash
    rw [List.append_assoc, List.singleton_append, List.splitOn_append_cons_self,
      List.splitOn_append_cons_self, List.splitOn_nil, pushAll_concat_nil, pushAll_append]
  · rw [List.splitOn_append_cons_self, pushAll_append]

/-- Below a base with one leading slash the segments of a relative identifier are read behind those of the
base. -/
theorem exists_locate_below {base id : String} (below : SingleSlash base.toList)
    (relative : id.toList.head? ≠ some '/') :
    ∃ path : NormalPath, path.slashes = 1 ∧ locate id base = path.text ∧
      path.segments.reverse =
        pushAll (pushAll [] (base.toList.splitOn '/')) (id.toList.splitOn '/') := by
  have filled : base.toList ≠ [] := fun empty => by simpa [empty] using below.1
  have single := below.join relative
  obtain ⟨path, same, slashes, segments, _⟩ := exists_normalPath single.1
  refine ⟨path, slashes.trans single.rootSlashes, ?_, ?_⟩
  · rw [locate, locateChars, if_neg relative]
    exact congrArg String.ofList same
  · rw [segments, List.reverse_reverse, pushAll_joinChars filled relative]

/-- An absolute path with one leading slash that is spelled without detours: no segment is empty, `.` or
`..`, and no slash stands at the end of a path but the root. -/
structure IsSettled (path : String) : Prop where
  single : leadingSlashes path.toList = 1
  plain : path ≠ "/" → ∀ piece ∈ path.toList.tail.splitOn '/', IsPlain piece
  unended : path ≠ "/" → path.toList.getLast? ≠ some '/'

namespace NormalPath

variable {path : NormalPath}

theorem singleSlash_chars (single : path.slashes = 1) : SingleSlash path.chars := by
  refine ⟨path.head?_chars, ?_⟩
  rw [chars_eq, single]
  exact path.head?_intercalate_segments

theorem isSettled_text (single : path.slashes = 1) : IsSettled path.text := by
  have chars : path.chars = '/' :: ['/'].intercalate path.segments := by
    rw [path.chars_eq, single]
    rfl
  have deep : path.text ≠ "/" → path.segments ≠ [] := by
    intro other root
    refine other (congrArg String.ofList ?_)
    rw [chars, root]
    rfl
  refine ⟨?_, fun other piece member => ?_, fun other => ?_⟩
  · have second := path.head?_intercalate_segments
    rw [toList_text, chars]
    generalize ['/'].intercalate path.segments = rest at second
    cases rest with
    | nil => rfl
    | cons c more =>
      have stops : c ≠ '/' := by simpa using second
      simp [leadingSlashes, stops]
  · have slashless : ∀ segment ∈ path.segments, '/' ∉ segment :=
      fun segment inside => (path.plain segment inside).slashless
    rw [toList_text, chars, List.tail_cons, List.splitOn_intercalate _ slashless (deep other)] at member
    exact path.plain piece member
  · rw [toList_text]
    exact path.getLast?_chars (deep other)

end NormalPath

/-- What is located once is located there from everywhere. -/
theorem locate_text (path : NormalPath) (base : String) : locate path.text base = path.text := by
  rw [locate, locateChars, NormalPath.toList_text, if_pos path.head?_chars]
  have normal := path.normalize_text
  rwa [normalize, NormalPath.toList_text] at normal

theorem head?_of_relative {path : String} (relative : isAbsolute path = false) :
    path.toList.head? ≠ some '/' := of_decide_eq_false relative

/-- Below a base with one leading slash, locating an identifier gives a settled path, unless the identifier
begins with two slashes, and a settled path stays where it is. To go on from a located directory is to go
the whole way at once. -/
theorem located_paths_are_settled_and_compose {base : String} (below : leadingSlashes base.toList = 1) :
    (∀ id, leadingSlashes id.toList ≠ 2 →
      IsSettled (locate id base) ∧ ∀ other, locate (locate id base) other = locate id base) ∧
    (∀ directory id, directory ≠ "" → isAbsolute directory = false → isAbsolute id = false →
      locate id (locate directory base) = locate (directory ++ "/" ++ id) base) := by
  have single : SingleSlash base.toList := .of_leadingSlashes below
  constructor
  · intro id undoubled
    have roots : rootSlashes id.toList ≠ 2 := fun two => undoubled (leadingSlashes_of_rootSlashes two)
    obtain ⟨path, slashes, located⟩ := exists_locate_single single roots
    rw [located]
    exact ⟨path.isSettled_text slashes, locate_text path⟩
  · intro directory id filled descends relative
    have start : directory.toList ≠ [] := by simpa using filled
    have descent := head?_of_relative descends
    obtain ⟨outer, slashes, arrived, steps⟩ := exists_locate_below single descent
    -- in two steps, from the normal path of the directory
    have next : SingleSlash outer.text.toList := by
      rw [NormalPath.toList_text]
      exact NormalPath.singleSlash_chars slashes
    obtain ⟨inner, one, located, moreSteps⟩ := exists_locate_below next (head?_of_relative relative)
    rw [NormalPath.toList_text, outer.pushAll_chars, steps] at moreSteps
    -- in one step, along the joined path
    have joined : (directory ++ "/" ++ id).toList = directory.toList ++ '/' :: id.toList := by simp
    have whole : (directory ++ "/" ++ id).toList.head? ≠ some '/' := by
      rwa [joined, List.head?_append_of_ne_nil _ start]
    obtain ⟨path, alsoOne, alsoLocated, allSteps⟩ := exists_locate_below single whole
    rw [joined, List.splitOn_append_cons_self, pushAll_append, ← moreSteps] at allSteps
    rw [arrived, located, alsoLocated]
    have segments : inner.segments = path.segments := (List.reverse_injective allSteps).symm
    have same : inner.chars = path.chars := by
      rw [inner.chars_eq, path.chars_eq, one, alsoOne, segments]
    exact congrArg String.ofList same

/-- From a working copy up to its neighbour and back by a detour. -/
theorem neighbour_is_settled : leadingSlashes "/srv//app/".toList = 1 ∧
    leadingSlashes "///lib/./x/..".toList ≠ 2 ∧ "../lib" ≠ "" ∧ isAbsolute "../lib" = false ∧
    isAbsolute "../../..//x/" = false ∧
    (IsSettled (locate "///lib/./x/.." "/srv//app/") ∧
      locate (locate "///lib/./x/.." "/srv//app/") "/elsewhere" = locate "///lib/./x/.." "/srv//app/") ∧
    locate "../../..//x/" (locate "../lib" "/srv//app/") =
      locate ("../lib" ++ "/" ++ "../../..//x/") "/srv//app/" := by
  have below : leadingSlashes "/srv//app/".toList = 1 := by decide
  have undoubled : leadingSlashes "///lib/./x/..".toList ≠ 2 := by decide
  have descends : isAbsolute "../lib" = false := by decide
  have relative : isAbsolute "../../..//x/" = false := by decide
  obtain ⟨settles, composes⟩ := located_paths_are_settled_and_compose below
  obtain ⟨settled, stays⟩ := settles _ undoubled
  exact ⟨below, undoubled, by decide, descends, relative, ⟨settled, stays _⟩,
    composes _ _ (by decide) descends relative⟩

end ModuleSystem.Path
