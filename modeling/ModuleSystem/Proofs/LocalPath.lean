import Mathlib.Computability.Language
import ModuleSystem.Identifier
import ModuleSystem.Proofs.Path

/-! # Patterns of local paths

Local paths have two patterns. One repeats a segment that may have a slash behind it, so that a text can be
cut into segments in many ways. The other one puts a slash before every segment but the first one, and leaves
one way. Both have the language of the texts that are accepted as local paths, and this is how such a text is
spelled: behind its opening it is empty, or it is cut at the slashes into pieces of which only the last one
may be empty. -/

namespace ModuleSystem

theorem Text.flatten_splitOn (separator : Char) (chars : List Char) :
    (chars.splitOn separator).flatten = chars.filter (· ≠ separator) := by
  induction chars with
  | nil => simp
  | cons c rest ih =>
    rw [List.splitOn_cons_eq_if_modifyHead]
    by_cases same : c = separator
    · simp [same, ih]
    · cases pieces : rest.splitOn separator with
      | nil => exact absurd pieces (List.splitOn_ne_nil _ _)
      | cons first more =>
        rw [pieces] at ih
        simpa [same] using ih

namespace Identifier

open scoped Computability

/-- The texts of one or more characters of a class. -/
def runsOf (belongs : Char → Bool) : Language Char :=
  {chars | chars ≠ [] ∧ chars.all belongs = true}

/-- The text of one character. -/
def just (c : Char) : Language Char := {[c]}

/-- The texts of a language, and the empty text. -/
def maybe (language : Language Char) : Language Char := language + 1

/-- What a local path begins with: a slash, one dot and a slash, or two dots and a slash. -/
def openings : Language Char := just '/' + just '.' * maybe (just '.') * just '/'

/-- The segments of local paths: neither slashes nor backslashes nor NULs. -/
def segments : Language Char := runsOf fun c => !(['/', '\\', '\x00'].contains c)

/-- What may follow an opening, as segments that may have a slash behind them. -/
def nestedTails : Language Char := (segments * maybe (just '/'))∗

/-- What may follow an opening and is not empty, as a first segment, further ones behind slashes, and a last
slash. -/
def filledTails : Language Char := segments * (just '/' * segments)∗ * maybe (just '/')

/-- The pattern of local paths that repeats a repetition. -/
def nestedPaths : Language Char := openings * nestedTails

/-- The pattern of local paths in which no repetition repeats another one. -/
def linearPaths : Language Char := openings * maybe filledTails

/-- A text is cut at its slashes into pieces of which only the last one may be empty, and it has neither a
backslash nor a NUL. -/
structure IsSegmented (chars : List Char) : Prop where
  clean : ∀ c ∈ chars, c ≠ '\\' ∧ c ≠ '\x00'
  filled : ∀ piece ∈ (chars.splitOn '/').dropLast, piece ≠ []

variable {chars segment rest : List Char} {c : Char} {language : Language Char}

@[simp] theorem mem_just : chars ∈ just c ↔ chars = [c] := Iff.rfl

@[simp] theorem mem_maybe : chars ∈ maybe language ↔ chars ∈ language ∨ chars = [] :=
  (Language.mem_add _ _ _).trans (or_congr_right (Language.mem_one chars))

theorem append_mem_kstar (start : segment ∈ language) (more : rest ∈ language∗) :
    segment ++ rest ∈ language∗ := by
  obtain ⟨parts, rfl, all⟩ := Language.mem_kstar.mp more
  exact Language.mem_kstar.mpr ⟨segment :: parts, rfl, List.forall_mem_cons.mpr ⟨start, all⟩⟩

/-- What holds of the empty text, and goes over from a rest to one more part before it, holds of all texts
of many parts. -/
theorem kstar_induction {motive : List Char → Prop} (nil : motive [])
    (step : ∀ start ∈ language, ∀ rest, motive rest → motive (start ++ rest))
    (member : chars ∈ language∗) : motive chars := by
  obtain ⟨parts, rfl, all⟩ := Language.mem_kstar.mp member
  clear member
  induction parts with
  | nil => exact nil
  | cons start rest ih =>
    obtain ⟨head, tail⟩ := List.forall_mem_cons.mp all
    exact step start head rest.flatten (ih tail)

/-! ## Segments -/

theorem mem_segments : segment ∈ segments ↔ segment ≠ [] ∧ segment.all isSegmentChar = true := by
  have same : (fun c => !(['/', '\\', '\x00'].contains c)) = isSegmentChar := by
    funext c
    simp [isSegmentChar, Bool.and_assoc]
  unfold segments
  rw [same]
  exact Iff.rfl

theorem slashless_of_mem_segments (member : segment ∈ segments) : '/' ∉ segment := by
  intro slash
  have belongs := List.all_eq_true.mp (mem_segments.mp member).2 '/' slash
  exact absurd belongs (by decide)

theorem areSegments_append (slashless : '/' ∉ segment) (begun : Bool) (rest : List Char) :
    areSegments begun (segment ++ rest) =
      (segment.all isSegmentChar && areSegments (begun || !segment.isEmpty) rest) := by
  induction segment generalizing begun with
  | nil => simp
  | cons c more ih =>
    have other : c ≠ '/' := fun same => slashless (by simp [same])
    have tail := ih (fun member => slashless (by simp [member])) true
    simp only [List.cons_append, areSegments, if_neg other, List.all_cons, tail, Bool.true_or,
      List.isEmpty_cons, Bool.not_false, Bool.or_true, Bool.and_assoc]

/-- Behind a segment the text may go on as within it. -/
theorem areSegments_append_of_mem (member : segment ∈ segments) (begun : Bool) (rest : List Char) :
    areSegments begun (segment ++ rest) = areSegments true rest := by
  obtain ⟨nonempty, spelled⟩ := mem_segments.mp member
  have filled : segment.isEmpty = false := List.isEmpty_eq_false_iff.mpr nonempty
  rw [areSegments_append (slashless_of_mem_segments member), spelled, filled]
  simp

/-- What may begin with a segment may also go on with it. -/
theorem areSegments_begun (fresh : areSegments false chars = true) : areSegments true chars = true := by
  cases chars with
  | nil => rfl
  | cons c rest =>
    unfold areSegments at fresh ⊢
    split
    · simp_all
    · simp_all

theorem areSegments_cons_slash (begun : Bool) (rest : List Char) :
    areSegments begun ('/' :: rest) = (begun && areSegments false rest) := by
  simp [areSegments]

theorem areSegments_cons_of_ne (other : c ≠ '/') (begun : Bool) (rest : List Char) :
    areSegments begun (c :: rest) = (isSegmentChar c && areSegments true rest) := by
  simp [areSegments, other]

/-- A segment with one more character. -/
theorem concat_mem_segments (run : segment = [] ∨ segment ∈ segments) (belongs : isSegmentChar c = true) :
    segment ++ [c] ∈ segments := by
  refine mem_segments.mpr ⟨by simp, ?_⟩
  rcases run with rfl | member
  · simpa using belongs
  · simpa [belongs] using (mem_segments.mp member).2

/-- A language has all texts of segments if it has the empty text, the segments, and with each of its texts
also a segment and a slash before it. -/
theorem mem_of_areSegments (nil : [] ∈ language) (last : ∀ segment ∈ segments, segment ∈ language)
    (slash : ∀ segment ∈ segments, ∀ rest ∈ language, segment ++ '/' :: rest ∈ language) :
    (areSegments false chars = true → chars ∈ language) ∧
    ∀ segment ∈ segments, areSegments true chars = true → segment ++ chars ∈ language := by
  induction chars with
  | nil => exact ⟨fun _ => nil, fun segment known _ => by simpa using last segment known⟩
  | cons c rest ih =>
    obtain ⟨fresh, begun⟩ := ih
    by_cases same : c = '/'
    · subst same
      simp only [areSegments_cons_slash, Bool.false_and, Bool.true_and]
      refine ⟨fun reads => absurd reads (by simp), fun segment known reads => ?_⟩
      exact slash segment known rest (fresh reads)
    · -- the character goes to the segment that has begun, or begins one
      have within (segment : List Char) (run : segment = [] ∨ segment ∈ segments)
          (reads : (isSegmentChar c && areSegments true rest) = true) :
          segment ++ c :: rest ∈ language := by
        obtain ⟨belongs, reads⟩ := (Bool.and_eq_true _ _).mp reads
        have longer := begun (segment ++ [c]) (concat_mem_segments run belongs) reads
        simpa using longer
      simp only [areSegments_cons_of_ne same]
      exact ⟨within [] (.inl rfl), fun segment known => within segment (.inr known)⟩

/-! ## The two patterns -/

theorem areSegments_of_mem_nestedTails (member : chars ∈ nestedTails) : areSegments false chars = true := by
  refine kstar_induction (motive := fun chars => areSegments false chars = true) rfl
    (fun part whole rest ih => ?_) member
  obtain ⟨segment, known, slash, last, rfl⟩ := Language.mem_mul.mp whole
  rw [List.append_assoc, areSegments_append_of_mem known]
  rcases mem_maybe.mp last with slashed | rfl
  · rw [mem_just.mp slashed, List.singleton_append, areSegments_cons_slash, ih]
    rfl
  · exact areSegments_begun ih

theorem areSegments_iff_nested : areSegments false chars = true ↔ chars ∈ nestedTails := by
  refine ⟨(mem_of_areSegments ?_ ?_ ?_).1, areSegments_of_mem_nestedTails⟩
  · exact Language.nil_mem_kstar _
  · intro segment known
    have part : segment ∈ segments * maybe (just '/') :=
      Language.mem_mul.mpr ⟨segment, known, [], by simp, by simp⟩
    have whole := append_mem_kstar part (Language.nil_mem_kstar _)
    rwa [List.append_nil] at whole
  · intro segment known rest tail
    have part : segment ++ ['/'] ∈ segments * maybe (just '/') :=
      Language.mem_mul.mpr ⟨segment, known, ['/'], by simp, rfl⟩
    have whole := append_mem_kstar part tail
    rwa [List.append_assoc] at whole

theorem mem_filledTails : chars ∈ filledTails ↔ ∃ segment ∈ segments,
    ∃ more ∈ (just '/' * segments)∗, ∃ last ∈ maybe (just '/'), segment ++ more ++ last = chars := by
  simp only [filledTails, Language.mem_mul]
  constructor
  · rintro ⟨_, ⟨segment, known, more, parts, rfl⟩, last, slash, rfl⟩
    exact ⟨segment, known, more, parts, last, slash, rfl⟩
  · rintro ⟨segment, known, more, parts, last, slash, rfl⟩
    exact ⟨_, ⟨segment, known, more, parts, rfl⟩, last, slash, rfl⟩

theorem areSegments_of_mem_filledTails (member : chars ∈ filledTails) : areSegments false chars = true := by
  obtain ⟨segment, known, more, parts, last, slash, rfl⟩ := mem_filledTails.mp member
  rw [List.append_assoc, areSegments_append_of_mem known]
  refine kstar_induction (motive := fun more => areSegments true (more ++ last) = true) ?_
    (fun part whole rest ih => ?_) parts
  · rcases mem_maybe.mp slash with slashed | rfl
    · rw [mem_just.mp slashed]
      rfl
    · rfl
  · obtain ⟨first, slashed, segment, known, rfl⟩ := Language.mem_mul.mp whole
    rw [mem_just.mp slashed, List.append_assoc, List.append_assoc, List.singleton_append,
      areSegments_cons_slash, areSegments_append_of_mem known, ih]
    rfl

theorem areSegments_iff_linear : areSegments false chars = true ↔ chars ∈ maybe filledTails := by
  have single (segment : List Char) (known : segment ∈ segments) (last : List Char)
      (slash : last ∈ maybe (just '/')) : segment ++ last ∈ filledTails :=
    mem_filledTails.mpr ⟨segment, known, [], Language.nil_mem_kstar _, last, slash, by simp⟩
  constructor
  · refine (mem_of_areSegments (by simp) ?_ ?_).1
    · intro segment known
      have whole := single segment known [] (by simp)
      rw [List.append_nil] at whole
      exact mem_maybe.mpr (.inl whole)
    · intro segment known rest tail
      refine mem_maybe.mpr (.inl ?_)
      rcases mem_maybe.mp tail with filled | rfl
      · -- the segment comes first, and the one that was first goes to those behind slashes
        obtain ⟨next, follows, more, parts, last, ends, rfl⟩ := mem_filledTails.mp filled
        have part : '/' :: next ∈ just '/' * segments :=
          Language.mem_mul.mpr ⟨['/'], by simp, next, follows, rfl⟩
        exact mem_filledTails.mpr
          ⟨segment, known, _, append_mem_kstar part parts, last, ends, by simp⟩
      · exact single segment known ['/'] (by simp)
  · intro member
    rcases mem_maybe.mp member with filled | rfl
    · exact areSegments_of_mem_filledTails filled
    · rfl

/-! ## Segments between slashes -/

/-- Pieces with slashes between them are segments if their characters are and only the last piece may be
empty. -/
theorem areSegments_intercalate {pieces : List (List Char)} (slashless : ∀ piece ∈ pieces, '/' ∉ piece) :
    areSegments false (['/'].intercalate pieces) =
      (pieces.all (fun piece => piece.all isSegmentChar) &&
        pieces.dropLast.all fun piece => !piece.isEmpty) := by
  induction pieces with
  | nil => rfl
  | cons piece rest ih =>
    obtain ⟨first, others⟩ := List.forall_mem_cons.mp slashless
    cases rest with
    | nil =>
      have read := areSegments_append first false []
      rw [List.append_nil] at read
      simp [read, areSegments]
    | cons next more =>
      rw [List.intercalate_cons_cons, List.append_assoc, areSegments_append first,
        List.singleton_append, areSegments_cons_slash, ih others]
      simp only [List.all_cons, List.dropLast_cons_cons, Bool.false_or]
      cases piece.all isSegmentChar <;> cases piece.isEmpty <;> simp

theorem areSegments_iff_isSegmented : areSegments false chars = true ↔ IsSegmented chars := by
  have slashless : ∀ piece ∈ chars.splitOn '/', '/' ∉ piece := fun piece => Text.notMem_of_mem_splitOn
  have read := areSegments_intercalate slashless
  rw [List.intercalate_splitOn] at read
  have clean : ((chars.splitOn '/').all fun piece => piece.all isSegmentChar) = true ↔
      ∀ c ∈ chars, c ≠ '\\' ∧ c ≠ '\x00' := by
    rw [← List.all_flatten, Text.flatten_splitOn, List.all_filter, List.all_eq_true]
    refine forall₂_congr fun c _ => ?_
    by_cases slash : c = '/'
    · simp [slash]
    · simp [slash, isSegmentChar]
  have filled : ((chars.splitOn '/').dropLast.all fun piece => !piece.isEmpty) = true ↔
      ∀ piece ∈ (chars.splitOn '/').dropLast, piece ≠ [] := by
    simp
  rw [read, Bool.and_eq_true, clean, filled]
  exact ⟨fun ⟨clean, filled⟩ => ⟨clean, filled⟩, fun ⟨clean, filled⟩ => ⟨clean, filled⟩⟩

/-! ## Local paths -/

theorem mem_openings : chars ∈ openings ↔ chars ∈ [['/'], ['.', '/'], ['.', '.', '/']] := by
  have dotted : chars ∈ just '.' * maybe (just '.') * just '/' ↔
      chars = ['.', '/'] ∨ chars = ['.', '.', '/'] := by
    simp only [Language.mem_mul, mem_maybe, mem_just]
    constructor
    · rintro ⟨_, ⟨_, rfl, dot, rfl | rfl, rfl⟩, _, rfl, rfl⟩
      · exact .inr rfl
      · exact .inl rfl
    · rintro (rfl | rfl)
      · exact ⟨['.'], ⟨['.'], rfl, [], .inr rfl, rfl⟩, ['/'], rfl, rfl⟩
      · exact ⟨['.', '.'], ⟨['.'], rfl, ['.'], .inl rfl, rfl⟩, ['/'], rfl, rfl⟩
  rw [openings, Language.mem_add, dotted]
  simp

/-- A local path is an opening and segments behind it. -/
theorem isLocalChars_iff : isLocalChars chars = true ↔
    ∃ start ∈ openings, ∃ rest, areSegments false rest = true ∧ start ++ rest = chars := by
  simp only [mem_openings, List.mem_cons, List.not_mem_nil, or_false]
  constructor
  · intro accepts
    unfold isLocalChars at accepts
    split at accepts
    · exact ⟨['/'], by simp, _, accepts, rfl⟩
    · exact ⟨['.', '/'], by simp, _, accepts, rfl⟩
    · exact ⟨['.', '.', '/'], by simp, _, accepts, rfl⟩
    · cases accepts
  · rintro ⟨start, rfl | rfl | rfl, rest, reads, rfl⟩
    · exact reads
    · exact reads
    · exact reads

theorem isLocalChars_iff_mem {tails : Language Char}
    (tail : ∀ {rest}, areSegments false rest = true ↔ rest ∈ tails) :
    isLocalChars chars = true ↔ chars ∈ openings * tails := by
  simp only [isLocalChars_iff, tail, Language.mem_mul]

/-- The texts that are accepted as local paths are those that match the one pattern from end to end, and
those that match the other one. They are an opening and a rest that is cut at its slashes into pieces of
which only the last one may be empty, without backslashes and NULs. -/
theorem local_paths_match_patterns (raw : String) :
    (isLocal raw = true ↔ raw.toList ∈ linearPaths) ∧
    (isLocal raw = true ↔ raw.toList ∈ nestedPaths) ∧
    (isLocal raw = true ↔ ∃ start ∈ ["/", "./", "../"], ∃ rest : String,
      raw = start ++ rest ∧ IsSegmented rest.toList) := by
  refine ⟨isLocalChars_iff_mem areSegments_iff_linear, isLocalChars_iff_mem areSegments_iff_nested, ?_⟩
  unfold isLocal
  rw [isLocalChars_iff]
  simp only [mem_openings, areSegments_iff_isSegmented]
  constructor
  · rintro ⟨start, opens, rest, segmented, split⟩
    refine ⟨String.ofList start, ?_, String.ofList rest, ?_, by rwa [String.toList_ofList]⟩
    · exact List.mem_map_of_mem (f := String.ofList) opens
    · rw [← String.ofList_append, split, String.ofList_toList]
  · rintro ⟨start, opens, rest, rfl, segmented⟩
    have opening : start.toList ∈ [['/'], ['.', '/'], ['.', '.', '/']] :=
      List.mem_map_of_mem (f := String.toList) opens
    exact ⟨start.toList, opening, rest.toList, segmented, String.toList_append.symm⟩

end Identifier

end ModuleSystem
