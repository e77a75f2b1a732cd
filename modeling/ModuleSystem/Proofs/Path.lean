import Mathlib.Data.List.DropRight
import ModuleSystem.Path.Basic

/-! # Normal paths

A normal path begins with one slash or with two, and then has plain segments: none is empty, `.` or `..`.
Normalizing an absolute path gives one, and leaves out some of its characters. An extension or one more
segment at the end of a normal path gives a normal path again. -/

namespace ModuleSystem

namespace Text

theorem splitAt_eq_splitOn (separator : Char) (chars : List Char) :
    splitAt separator chars = chars.splitOn separator := by
  induction chars with
  | nil => rfl
  | cons c rest ih =>
    rw [List.splitOn_cons_eq_if_modifyHead, ← ih]
    simp only [splitAt, beq_iff_eq]
    split
    · rfl
    · cases pieces : splitAt separator rest with
      | nil => exact absurd pieces (splitAt_ne_nil _ _)
      | cons piece more => rfl

theorem joinWith_eq_intercalate (separator : List Char) (pieces : List (List Char)) :
    joinWith separator pieces = separator.intercalate pieces := by
  induction pieces with
  | nil => rfl
  | cons piece rest ih =>
    cases rest with
    | nil => exact List.intercalate_singleton.symm
    | cons next more => rw [joinWith, ih, List.intercalate_cons_cons]

theorem notMem_of_mem_splitOn {separator : Char} {chars piece : List Char}
    (member : piece ∈ chars.splitOn separator) : separator ∉ piece := by
  induction chars generalizing piece with
  | nil => simp_all
  | cons c rest ih =>
    rw [List.splitOn_cons_eq_if_modifyHead] at member
    split at member
    · rcases List.mem_cons.mp member with rfl | later
      · simp
      · exact ih later
    · rename_i other
      cases pieces : rest.splitOn separator with
      | nil => exact absurd pieces (List.splitOn_ne_nil _ _)
      | cons first more =>
        rw [pieces] at member ih
        rcases List.mem_cons.mp member with rfl | later
        · simp only [List.mem_cons, not_or]
          exact ⟨fun same => other (by simp [same]), ih (by simp)⟩
        · exact ih (by simp [later])

theorem splitOn_replicate (separator : Char) (n : Nat) (chars : List Char) :
    (List.replicate n separator ++ chars).splitOn separator =
      List.replicate n [] ++ chars.splitOn separator := by
  induction n with
  | zero => rfl
  | succ n ih => simp [List.replicate_succ, List.splitOn_cons_eq_if_modifyHead, ih]

/-- Pieces that are left out are left out of the text, too. -/
theorem intercalate_sublist {separator : List Char} {some all : List (List Char)}
    (sub : some.Sublist all) : (separator.intercalate some).Sublist (separator.intercalate all) := by
  induction sub with
  | slnil => exact .slnil
  | @cons few more piece _ ih =>
    cases more with
    | nil => simp_all
    | cons next rest =>
      rw [List.intercalate_cons_cons]
      exact ih.trans (List.sublist_append_right _ _)
  | @cons_cons few more piece _ ih =>
    cases few with
    | nil =>
      rw [List.intercalate_singleton]
      cases more with
      | nil => simp
      | cons next rest =>
        rw [List.intercalate_cons_cons, List.append_assoc]
        exact List.sublist_append_left _ _
    | cons other others =>
      cases more with
      | nil => simp_all
      | cons next rest =>
        rw [List.intercalate_cons_cons, List.intercalate_cons_cons]
        exact ih.append_left _

theorem intercalate_append (separator : List Char) {pieces more : List (List Char)}
    (nonempty : pieces ≠ []) (filled : more ≠ []) :
    separator.intercalate (pieces ++ more) =
      separator.intercalate pieces ++ (separator ++ separator.intercalate more) := by
  induction pieces with
  | nil => exact absurd rfl nonempty
  | cons piece rest ih =>
    cases rest with
    | nil =>
      rw [List.singleton_append, List.intercalate_cons_of_ne_nil filled, List.intercalate_singleton,
        List.append_assoc]
    | cons next others =>
      have tail := ih (by simp)
      simp only [List.cons_append, List.intercalate_cons_cons] at tail ⊢
      rw [tail]
      simp

/-- What stands before the last piece does not depend on it. -/
theorem exists_intercalate_concat (separator : List Char) (pieces : List (List Char)) :
    ∃ lead, ∀ last, separator.intercalate (pieces ++ [last]) = lead ++ last := by
  by_cases nonempty : pieces = []
  · exact ⟨[], fun last => by simp [nonempty]⟩
  · refine ⟨separator.intercalate pieces ++ separator, fun last => ?_⟩
    rw [intercalate_append separator nonempty (by simp), List.intercalate_singleton,
      List.append_assoc]

end Text

namespace Path

/-- A segment that names something in its directory. -/
structure IsPlain (segment : List Char) : Prop where
  nonempty : segment ≠ []
  ne_here : segment ≠ here
  ne_above : segment ≠ above
  slashless : '/' ∉ segment

theorem IsPlain.append {segment extension : List Char} (plain : IsPlain segment)
    (slashless : '/' ∉ extension) : IsPlain (segment ++ extension) := by
  obtain ⟨nonempty, ne_here, ne_above, unslashed⟩ := plain
  rcases segment with _ | ⟨c, _ | ⟨d, rest⟩⟩
  · exact absurd rfl nonempty
  · refine ⟨by simp, fun same => ne_here ?_, fun same => ne_here ?_, by simp_all⟩
    · simp_all [here]
    · simp_all [here, above]
  · refine ⟨by simp, fun same => ?_, fun same => ne_above ?_, by simp_all⟩
    · simp [here] at same
    · simp_all [above]

/-- On a stack of plain segments `..` takes one back, or stays at the root. -/
theorem pushSegment_of_plain {stack : List (List Char)} (plain : ∀ segment ∈ stack, IsPlain segment)
    (segment : List Char) : pushSegment true stack segment =
      if segment = [] ∨ segment = here then stack
      else if segment = above then stack.tail else segment :: stack := by
  unfold pushSegment
  cases stack with
  | nil => rfl
  | cons top rest => simp only [if_neg (plain top (by simp)).ne_above, List.tail_cons]

theorem plain_pushSegment {stack : List (List Char)} (plain : ∀ segment ∈ stack, IsPlain segment)
    {segment : List Char} (slashless : '/' ∉ segment) :
    ∀ other ∈ pushSegment true stack segment, IsPlain other := by
  rw [pushSegment_of_plain plain]
  split
  · exact plain
  · rename_i moves
    split
    · exact fun other member => plain other (List.mem_of_mem_tail member)
    · intro other member
      rcases List.mem_cons.mp member with rfl | before
      · exact ⟨fun same => moves (.inl same), fun same => moves (.inr same), ‹_›, slashless⟩
      · exact plain other before

/-- Segments that are read onto a stack. -/
def pushAll (stack segments : List (List Char)) : List (List Char) :=
  segments.foldl (pushSegment true) stack

theorem plain_pushAll {stack segments : List (List Char)} (plain : ∀ segment ∈ stack, IsPlain segment)
    (slashless : ∀ segment ∈ segments, '/' ∉ segment) :
    ∀ other ∈ pushAll stack segments, IsPlain other := by
  induction segments generalizing stack with
  | nil => exact plain
  | cons segment rest ih =>
    exact ih (plain_pushSegment plain (slashless segment (by simp)))
      fun other member => slashless other (by simp [member])

theorem pushAll_of_plain (stack : List (List Char)) {segments : List (List Char)}
    (plain : ∀ segment ∈ stack, IsPlain segment) (all : ∀ segment ∈ segments, IsPlain segment) :
    pushAll stack segments = segments.reverse ++ stack := by
  induction segments generalizing stack with
  | nil => rfl
  | cons segment rest ih =>
    obtain ⟨nonempty, ne_here, ne_above, slashless⟩ := all segment (by simp)
    have pushed : pushSegment true stack segment = segment :: stack := by
      rw [pushSegment_of_plain plain, if_neg (by simp [nonempty, ne_here]), if_neg ne_above]
    have more : ∀ other ∈ segment :: stack, IsPlain other :=
      List.forall_mem_cons.mpr ⟨all segment (by simp), plain⟩
    change pushAll (pushSegment true stack segment) rest = _
    rw [pushed, ih _ more fun other member => all other (by simp [member])]
    simp

/-- What is read onto a stack is found in what is read. -/
theorem pushAll_sublist {stack segments : List (List Char)}
    (plain : ∀ segment ∈ stack, IsPlain segment) (slashless : ∀ segment ∈ segments, '/' ∉ segment) :
    (pushAll stack segments).reverse.Sublist (stack.reverse ++ segments) := by
  induction segments generalizing stack with
  | nil => simp [pushAll]
  | cons segment rest ih =>
    have next := ih (plain_pushSegment plain (slashless segment (by simp)))
      fun other member => slashless other (by simp [member])
    refine next.trans ?_
    rw [pushSegment_of_plain plain]
    split
    · exact (List.sublist_cons_self segment rest).append_left _
    · split
      · exact (List.tail_sublist stack).reverse.append (List.sublist_cons_self segment rest)
      · simp

theorem pushAll_replicate (n : Nat) (segments : List (List Char)) :
    pushAll [] (List.replicate n [] ++ segments) = pushAll [] segments := by
  induction n with
  | zero => rfl
  | succ n ih => exact ih

/-- An absolute path begins with one slash or two, which are kept. -/
theorem rootSlashes_cases {chars : List Char} (absolute : chars.head? = some '/') :
    (rootSlashes chars = 1 ∨ rootSlashes chars = 2) ∧
      ∃ rest, chars = List.replicate (rootSlashes chars) '/' ++ rest := by
  unfold rootSlashes
  split
  · exact ⟨.inl rfl, _, rfl⟩
  · exact ⟨.inr rfl, _, rfl⟩
  · exact ⟨.inl rfl, _, rfl⟩
  · rename_i c3 c2 relative
    cases chars with
    | nil => cases absolute
    | cons c rest =>
      cases absolute
      exact absurd rfl (relative rest)

/-- A path in normal form. -/
structure NormalPath where
  slashes : Nat
  segments : List (List Char)
  rooted : slashes = 1 ∨ slashes = 2
  plain : ∀ segment ∈ segments, IsPlain segment

namespace NormalPath

variable (path : NormalPath)

def chars : List Char := ofSegments path.slashes path.segments

def text : String := String.ofList path.chars

theorem chars_eq : path.chars = List.replicate path.slashes '/' ++ ['/'].intercalate path.segments := by
  unfold chars ofSegments
  rw [Text.joinWith_eq_intercalate]
  rcases path.rooted with one | two
  · simp [one]
  · simp [two, List.replicate_succ]

theorem head?_chars : path.chars.head? = some '/' := by
  rw [chars_eq]
  rcases path.rooted with one | two
  · simp [one]
  · simp [two, List.replicate_succ]

@[simp] theorem toList_text : path.text.toList = path.chars := String.toList_ofList

theorem isAbsolute_text : isAbsolute path.text = true := by
  simp [isAbsolute, head?_chars]

/-- The pieces between the slashes of a normal path are its segments, after some empty pieces. -/
theorem splitOn_chars : ∃ n, path.chars.splitOn '/' = List.replicate n [] ++ path.segments := by
  rw [chars_eq, Text.splitOn_replicate]
  by_cases root : path.segments = []
  · exact ⟨path.slashes + 1, by simp [root, List.replicate_succ']⟩
  · refine ⟨path.slashes, ?_⟩
    rw [List.splitOn_intercalate _ (fun segment member => (path.plain segment member).slashless) root]

end NormalPath

/-- The normal form of an absolute path is a normal path. -/
theorem exists_normalPath {chars : List Char} (absolute : chars.head? = some '/') :
    ∃ path : NormalPath, normalizeChars chars = path.chars ∧ path.slashes = rootSlashes chars ∧
      path.segments = (pushAll [] (chars.splitOn '/')).reverse ∧ path.chars.Sublist chars := by
  obtain ⟨rooted, rest, split⟩ := rootSlashes_cases absolute
  have slashless : ∀ piece ∈ chars.splitOn '/', '/' ∉ piece :=
    fun piece => Text.notMem_of_mem_splitOn
  have positive : decide (0 < rootSlashes chars) = true := by
    rcases rooted with one | two
    · simp [one]
    · simp [two]
  let path : NormalPath := ⟨rootSlashes chars, (pushAll [] (chars.splitOn '/')).reverse, rooted,
    fun segment member => plain_pushAll (by simp) slashless segment (List.mem_reverse.mp member)⟩
  refine ⟨path, ?_, rfl, rfl, ?_⟩
  · simp only [normalizeChars, normalSegments, positive, Text.splitAt_eq_splitOn]
    rfl
  · have same : chars.splitOn '/' = List.replicate (rootSlashes chars) [] ++ rest.splitOn '/' :=
      (congrArg (List.splitOn '/') split).trans (Text.splitOn_replicate _ _ _)
    have found : path.segments.Sublist (rest.splitOn '/') := by
      change (pushAll [] (chars.splitOn '/')).reverse.Sublist _
      rw [same, pushAll_replicate]
      exact pushAll_sublist (by simp) fun piece => Text.notMem_of_mem_splitOn
    have shorter : (['/'].intercalate path.segments).Sublist (['/'].intercalate (rest.splitOn '/')) :=
      Text.intercalate_sublist found
    rw [List.intercalate_splitOn] at shorter
    rw [path.chars_eq]
    exact (shorter.append_left _).trans (by rw [← split])

namespace NormalPath

variable (path : NormalPath)

/-- A normal path with one more segment. -/
def child {segment : List Char} (plain : IsPlain segment) : NormalPath :=
  { path with
    segments := path.segments ++ [segment]
    plain := by
      intro other member
      rcases List.mem_append.mp member with before | last
      · exact path.plain other before
      · rwa [List.mem_singleton.mp last] }

/-- Every normal path but the roots has a last segment. -/
theorem eq_child (inner : path.segments ≠ []) :
    ∃ (parent : NormalPath) (segment : List Char) (plain : IsPlain segment),
      path = parent.child plain := by
  obtain ⟨slashes, segments, rooted, all⟩ := path
  obtain ⟨before, last, split⟩ := (List.eq_nil_or_concat segments).resolve_left inner
  rw [List.concat_eq_append] at split
  subst split
  exact ⟨⟨slashes, before, rooted, fun segment member => all segment (by simp [member])⟩, last,
    all last (by simp), rfl⟩

/-- What stands before the last segment does not depend on it. -/
theorem exists_chars_child : ∃ lead, ∀ (segment : List Char) (plain : IsPlain segment),
    (path.child plain).chars = lead ++ segment := by
  obtain ⟨lead, leads⟩ := Text.exists_intercalate_concat ['/'] path.segments
  refine ⟨List.replicate path.slashes '/' ++ lead, fun segment plain => ?_⟩
  rw [chars_eq]
  simp [child, leads]

theorem getLast?_chars (deep : path.segments ≠ []) : path.chars.getLast? ≠ some '/' := by
  obtain ⟨parent, name, plain, rfl⟩ := path.eq_child deep
  obtain ⟨lead, leads⟩ := parent.exists_chars_child
  rw [leads, List.getLast?_append_of_ne_nil _ plain.nonempty]
  exact fun slash => plain.slashless (List.mem_of_getLast? slash)

theorem joinChars_eq {segment : List Char} (plain : IsPlain segment) :
    joinChars path.chars segment = (path.child plain).chars := by
  have relative : segment.head? ≠ some '/' := fun slash =>
    plain.slashless (List.mem_of_mem_head? slash)
  have filled : path.chars ≠ [] := fun empty => by simpa [empty] using path.head?_chars
  unfold joinChars
  rw [if_neg relative]
  by_cases root : path.segments = []
  · have last : path.chars.getLast? = some '/' := by
      rw [chars_eq, root]
      rcases path.rooted with one | two
      · simp [one]
      · simp [two, List.replicate_succ]
    rw [if_pos (.inr last), chars_eq, chars_eq]
    simp [child, root]
  · rw [if_neg (by simp [path.getLast?_chars root, filled]), chars_eq, chars_eq]
    simp [child, Text.intercalate_append _ root]

/-- The segments of a normal path are what stands between its slashes. -/
theorem segments_eq : path.segments = (path.chars.splitOn '/').filter (· ≠ []) := by
  obtain ⟨n, pieces⟩ := path.splitOn_chars
  have blank : (List.replicate n ([] : List Char)).filter (· ≠ []) = [] :=
    List.filter_eq_nil_iff.mpr fun piece member => by simp [List.eq_of_mem_replicate member]
  have filled : path.segments.filter (· ≠ []) = path.segments :=
    List.filter_eq_self.mpr fun segment member => by simpa using (path.plain segment member).nonempty
  rw [pieces, List.filter_append, blank, filled, List.nil_append]

/-- A normal path is told by its text. -/
theorem chars_inj {path other : NormalPath} (same : path.chars = other.chars) : path = other := by
  have segments : path.segments = other.segments := by rw [segments_eq, same, ← segments_eq]
  have slashes : path.slashes = other.slashes := by
    have lengths := congrArg List.length same
    simpa [chars_eq, segments] using lengths
  cases path
  cases other
  simp_all

theorem text_inj {path other : NormalPath} (same : path.text = other.text) : path = other :=
  chars_inj (String.ofList_injective same)

theorem head?_intercalate_segments : (['/'].intercalate path.segments).head? ≠ some '/' := by
  cases segments : path.segments with
  | nil => simp
  | cons segment rest =>
    have plain := path.plain segment (by simp [segments])
    intro slash
    refine plain.slashless (List.mem_of_mem_head? ?_)
    cases rest with
    | nil => rwa [List.intercalate_singleton] at slash
    | cons next more =>
      rwa [List.intercalate_cons_cons, List.append_assoc, List.head?_append_of_ne_nil _ plain.nonempty]
        at slash

theorem rootSlashes_chars : rootSlashes path.chars = path.slashes := by
  have other := path.head?_intercalate_segments
  rw [chars_eq]
  generalize ['/'].intercalate path.segments = rest at other ⊢
  rcases path.rooted with one | two
  · rcases rest with _ | ⟨c, more⟩
    · simp [one, rootSlashes]
    · have first : c ≠ '/' := by simpa using other
      simp [one, rootSlashes, first]
  · rcases rest with _ | ⟨c, more⟩
    · simp [two, List.replicate_succ, rootSlashes]
    · have first : c ≠ '/' := by simpa using other
      simp [two, List.replicate_succ, rootSlashes, first]

/-- The segments of a normal path are read as they are. -/
theorem pushAll_chars : pushAll [] (path.chars.splitOn '/') = path.segments.reverse := by
  obtain ⟨n, pieces⟩ := path.splitOn_chars
  rw [pieces, pushAll_replicate, pushAll_of_plain [] (by simp) path.plain, List.append_nil]

/-- A normal path is its own normal form. -/
theorem normalize_text : normalize path.text = path.text := by
  obtain ⟨normal, same, slashes, segments, _⟩ := exists_normalPath path.head?_chars
  rw [pushAll_chars, List.reverse_reverse] at segments
  rw [rootSlashes_chars] at slashes
  refine congrArg String.ofList ?_
  rw [toList_text, same, chars_eq, chars_eq, slashes, segments]

/-- A path goes on below another one. -/
def LiesBelow (inner outer : NormalPath) : Prop :=
  inner.slashes = outer.slashes ∧ ∃ rest, rest ≠ [] ∧ inner.segments = outer.segments ++ rest

theorem LiesBelow.irrefl : ¬ path.LiesBelow path := by
  rintro ⟨_, rest, filled, segments⟩
  exact filled (by simpa using segments)

theorem liesBelow_iff {inner outer : NormalPath} (same : inner.slashes = outer.slashes)
    (deep : outer.segments ≠ []) :
    inner.LiesBelow outer ↔ ∃ more, inner.chars = outer.chars ++ '/' :: more := by
  constructor
  · rintro ⟨_, rest, filled, segments⟩
    refine ⟨['/'].intercalate rest, ?_⟩
    rw [chars_eq, chars_eq, segments, same, Text.intercalate_append _ deep filled]
    simp
  · rintro ⟨more, split⟩
    have segments : inner.segments = outer.segments ++ (more.splitOn '/').filter (· ≠ []) := by
      rw [segments_eq, split, List.splitOn_append_cons_self, List.filter_append, ← segments_eq]
    refine ⟨same, _, fun none => ?_, segments⟩
    rw [none, List.append_nil] at segments
    have equal : inner.chars = outer.chars := by rw [chars_eq, chars_eq, same, segments]
    have shorter := congrArg List.length split
    simp [equal] at shorter

/-- An extension at the end of a normal path, unless it is a root. -/
theorem chars_append (inner : path.segments ≠ []) {extension : List Char}
    (slashless : '/' ∉ extension) :
    ∃ other : NormalPath, path.chars ++ extension = other.chars ∧ other.slashes = path.slashes := by
  obtain ⟨parent, segment, plain, rfl⟩ := path.eq_child inner
  obtain ⟨lead, leads⟩ := parent.exists_chars_child
  refine ⟨parent.child (plain.append slashless), ?_, rfl⟩
  rw [leads, leads, List.append_assoc]

end NormalPath

/-! ## Absolute paths -/

theorem head?_of_rdropWhile {chars : List Char} {drop : Char → Bool} (absolute : chars.head? = some '/')
    (some_left : ∃ c ∈ chars, drop c = false) : (chars.rdropWhile drop).head? = some '/' := by
  obtain ⟨more, split⟩ := List.rdropWhile_prefix drop (l := chars)
  cases left : chars.rdropWhile drop with
  | nil =>
    obtain ⟨c, member, kept⟩ := some_left
    have dropped := List.rdropWhile_eq_nil_iff.mp left c member
    simp [kept] at dropped
  | cons c rest =>
    rw [left] at split
    rw [← split] at absolute
    exact absolute

/-- A path begins with its directory. -/
theorem directoryChars_starts (chars : List Char) : directoryChars chars <+: chars := by
  change (if _ then chars.rdropWhile (· ≠ '/') else
    (chars.rdropWhile (· ≠ '/')).rdropWhile (· = '/')) <+: chars
  split
  · exact List.rdropWhile_prefix _ _
  · exact (List.rdropWhile_prefix _ _).trans (List.rdropWhile_prefix _ _)

/-- The directory of an absolute path is absolute. -/
theorem isAbsolute_directory {path : String} (absolute : isAbsolute path = true) :
    isAbsolute (directory path) = true := by
  have slash : path.toList.head? = some '/' := of_decide_eq_true absolute
  have head : (path.toList.rdropWhile (· ≠ '/')).head? = some '/' :=
    head?_of_rdropWhile slash ⟨'/', List.mem_of_mem_head? slash, by decide⟩
  refine decide_eq_true ?_
  rw [directory, String.toList_ofList]
  change (if (path.toList.rdropWhile (· ≠ '/')).all (· = '/') then path.toList.rdropWhile (· ≠ '/')
    else (path.toList.rdropWhile (· ≠ '/')).rdropWhile (· = '/')).head? = some '/'
  split
  · exact head
  · rename_i inner
    refine head?_of_rdropWhile head ?_
    simpa using inner

theorem head?_joinChars {base : List Char} (absolute : base.head? = some '/') (path : List Char) :
    (joinChars base path).head? = some '/' := by
  unfold joinChars
  cases base with
  | nil => cases absolute
  | cons c rest =>
    split
    · assumption
    · split
      · exact absolute
      · exact absolute

theorem mem_joinChars {base path : List Char} {c : Char} (member : c ∈ joinChars base path) :
    c ∈ path ∨ c ∈ base ∨ c = '/' := by
  unfold joinChars at member
  split at member
  · exact .inl member
  · split at member
    · exact (List.mem_append.mp member).symm.imp_right .inl
    · rcases List.mem_append.mp member with first | last
      · exact .inr (.inl first)
      · exact (List.mem_cons.mp last).symm.imp_right .inr

/-- What is located below an absolute base is a normal path. -/
theorem exists_locate {base : String} (absolute : isAbsolute base = true) (id : String) :
    ∃ path : NormalPath, locate id base = path.text := by
  have slash : base.toList.head? = some '/' := of_decide_eq_true absolute
  unfold locate locateChars
  split
  · obtain ⟨path, same, _⟩ := exists_normalPath ‹id.toList.head? = some '/'›
    exact ⟨path, congrArg String.ofList same⟩
  · obtain ⟨path, same, _⟩ := exists_normalPath (head?_joinChars slash id.toList)
    exact ⟨path, congrArg String.ofList same⟩

/-- What is located below an absolute base has no characters of its own but slashes. -/
theorem mem_locate {base : String} (absolute : isAbsolute base = true) {id : String} {c : Char}
    (member : c ∈ (locate id base).toList) : c ∈ id.toList ∨ c ∈ base.toList ∨ c = '/' := by
  have slash : base.toList.head? = some '/' := of_decide_eq_true absolute
  rw [locate, String.toList_ofList, locateChars] at member
  split at member
  · obtain ⟨path, same, _, _, sub⟩ := exists_normalPath ‹id.toList.head? = some '/'›
    rw [same] at member
    exact .inl (sub.subset member)
  · obtain ⟨path, same, _, _, sub⟩ := exists_normalPath (head?_joinChars slash id.toList)
    rw [same] at member
    exact mem_joinChars (sub.subset member)

theorem exists_normalize {path : String} (absolute : isAbsolute path = true) :
    ∃ normal : NormalPath, normalize path = normal.text ∧
      normal.segments = (pushAll [] (path.toList.splitOn '/')).reverse ∧
      normal.chars.Sublist path.toList := by
  obtain ⟨normal, same, _, more⟩ := exists_normalPath (of_decide_eq_true absolute)
  exact ⟨normal, congrArg String.ofList same, more⟩

theorem isAbsolute_join {base : String} (absolute : isAbsolute base = true) (path : String) :
    isAbsolute (join base path) = true := by
  refine decide_eq_true ?_
  rw [join, String.toList_ofList]
  exact head?_joinChars (of_decide_eq_true absolute) _

/-- The absolute form of a path, for an absolute working directory. -/
theorem isAbsolute_absolute {workingDirectory : String} (absolute : isAbsolute workingDirectory = true)
    (path : String) : isAbsolute (Path.absolute workingDirectory path) = true := by
  obtain ⟨normal, same, _⟩ := exists_normalize (isAbsolute_join absolute path)
  rw [Path.absolute, same]
  exact normal.isAbsolute_text

/-! ## Paths with one leading slash -/

/-- A path begins with one slash and no second one. -/
def SingleSlash (chars : List Char) : Prop := chars.head? = some '/' ∧ chars.tail.head? ≠ some '/'

instance (chars : List Char) : Decidable (SingleSlash chars) := inferInstanceAs (Decidable (_ ∧ _))

namespace SingleSlash

theorem rootSlashes {chars : List Char} (single : SingleSlash chars) : rootSlashes chars = 1 := by
  obtain ⟨absolute, second⟩ := single
  rcases chars with _ | ⟨c, _ | ⟨d, rest⟩⟩
  · cases absolute
  · cases absolute
    rfl
  · cases absolute
    have other : d ≠ '/' := by simpa using second
    simp [Path.rootSlashes, other]

theorem of_prefix {few chars : List Char} (single : SingleSlash chars) (start : few <+: chars)
    (filled : few ≠ []) : SingleSlash few := by
  obtain ⟨absolute, second⟩ := single
  obtain ⟨more, rfl⟩ := start
  rcases few with _ | ⟨c, _ | ⟨d, rest⟩⟩
  · exact absurd rfl filled
  · exact ⟨absolute, by simp⟩
  · exact ⟨absolute, second⟩

theorem join {base : List Char} (single : SingleSlash base) {path : List Char}
    (relative : path.head? ≠ some '/') : SingleSlash (joinChars base path) := by
  obtain ⟨absolute, second⟩ := single
  unfold joinChars
  rw [if_neg relative]
  rcases base with _ | ⟨c, _ | ⟨d, rest⟩⟩
  · cases absolute
  · cases absolute
    exact ⟨rfl, relative⟩
  · split
    · exact ⟨absolute, second⟩
    · exact ⟨absolute, second⟩

/-- The directory of a path begins as the path does. -/
theorem directory {chars : List Char} (single : SingleSlash chars) :
    SingleSlash (directoryChars chars) := by
  have absolute : isAbsolute (Path.directory (String.ofList chars)) = true :=
    isAbsolute_directory (by simp [isAbsolute, single.1])
  have filled : directoryChars chars ≠ [] := by
    intro empty
    simp [isAbsolute, Path.directory, empty] at absolute
  exact single.of_prefix (directoryChars_starts chars) filled

end SingleSlash

/-- What is located below a base with one leading slash has one as well, unless it brings two. -/
theorem exists_locate_single {base id : String} (below : SingleSlash base.toList)
    (single : rootSlashes id.toList ≠ 2) :
    ∃ path : NormalPath, path.slashes = 1 ∧ locate id base = path.text := by
  unfold locate locateChars
  split
  · rename_i absolute
    obtain ⟨path, same, slashes, _⟩ := exists_normalPath absolute
    have one := (rootSlashes_cases absolute).1.resolve_right single
    exact ⟨path, slashes.trans one, congrArg String.ofList same⟩
  · rename_i relative
    have single := below.join relative
    obtain ⟨path, same, slashes, _⟩ := exists_normalPath single.1
    exact ⟨path, slashes.trans single.rootSlashes, congrArg String.ofList same⟩

end Path

end ModuleSystem
