import ModuleSystem.Proofs.Address

/-! # What identifiers are read as

An identifier is a local path, or it is spelled as a scheme, a separator and a path, or it is neither. No text
is both, and a text is spelled with a scheme in one way only. So what an identifier is read as is told by the
grammar of the three forms, and tells the identifier in turn. -/

namespace ModuleSystem.Identifier

/-- Segments of an address: there are some, and each one has one or more letters, digits, dots and hyphens of
ASCII. -/
structure AreWords (segments : List (List Char)) : Prop where
  nonempty : segments ≠ []
  filled : ∀ segment ∈ segments, segment ≠ []
  spelled : ∀ segment ∈ segments, ∀ c ∈ segment, c.isAlphanum = true ∨ c = '.' ∨ c = '-'

/-- A path of an address: segments with single slashes between them, and perhaps a slash before them. -/
def IsAddressPath (chars : List Char) : Prop :=
  ∃ segments, AreWords segments ∧
    (chars = ['/'].intercalate segments ∨ chars = '/' :: ['/'].intercalate segments)

/-- A text is spelled as a scheme, a separator and a path. -/
structure Spells (raw scheme path : String) : Prop where
  protocol : IsProtocol scheme
  address : IsAddressPath path.toList
  whole : raw = scheme ++ "://" ++ path

variable {raw scheme path : String} {chars : List Char}

/-! ## Addresses -/

theorem isSchemePathChar_iff {c : Char} :
    isSchemePathChar c = true ↔ c.isAlphanum = true ∨ c = '.' ∨ c = '-' := by
  simp [isSchemePathChar, or_assoc]

theorem AreWords.slashless {segments : List (List Char)} (words : AreWords segments) :
    ∀ segment ∈ segments, '/' ∉ segment := by
  intro segment member slash
  have belongs := words.spelled segment member '/' slash
  revert belongs
  decide

theorem areWords_iff {segments : List (List Char)} (slashless : ∀ segment ∈ segments, '/' ∉ segment) :
    AreWords segments ↔ isSchemePath false (['/'].intercalate segments) = true := by
  rw [isSchemePath_intercalate slashless]
  simp only [Bool.and_eq_true, Bool.not_eq_true', List.isEmpty_eq_false_iff, List.all_eq_true,
    isSchemePathChar_iff]
  constructor
  · rintro ⟨nonempty, filled, spelled⟩
    exact ⟨nonempty, fun segment member => ⟨filled segment member, spelled segment member⟩⟩
  · rintro ⟨nonempty, all⟩
    exact ⟨nonempty, fun segment member => (all segment member).1,
      fun segment member => (all segment member).2⟩

/-- What can stand behind a slash of an address, or behind its separator if it begins with no slash. -/
theorem isSchemePath_iff : isSchemePath false chars = true ↔
    ∃ segments, AreWords segments ∧ chars = ['/'].intercalate segments := by
  constructor
  · intro reads
    have whole : ['/'].intercalate (chars.splitOn '/') = chars := List.intercalate_splitOn '/'
    refine ⟨chars.splitOn '/', ?_, whole.symm⟩
    rwa [areWords_iff fun piece => Text.notMem_of_mem_splitOn, whole]
  · rintro ⟨segments, words, rfl⟩
    exact (areWords_iff words.slashless).mp words

theorem isAddress_iff : isAddress chars = true ↔ IsAddressPath chars := by
  unfold isAddress
  constructor
  · intro reads
    split at reads
    · rename_i slash
      obtain ⟨segments, words, tail⟩ := isSchemePath_iff.mp reads
      obtain ⟨rest, rfl⟩ := List.head?_eq_some_iff.mp slash
      exact ⟨segments, words, .inr (congrArg _ tail)⟩
    · obtain ⟨segments, words, whole⟩ := isSchemePath_iff.mp reads
      exact ⟨segments, words, .inl whole⟩
  · rintro ⟨segments, words, rfl | rfl⟩
    · have reads := isSchemePath_iff.mpr ⟨segments, words, rfl⟩
      split
      · -- no text that is read without a slash before it begins with one
        rename_i slash
        obtain ⟨rest, whole⟩ := List.head?_eq_some_iff.mp slash
        rw [whole] at reads
        cases reads
      · exact reads
    · exact isSchemePath_iff.mpr ⟨segments, words, rfl⟩

/-- What a text is split into is a scheme and a path with the separator between them. -/
theorem of_schemeSplit? {scheme path : List Char} (split : schemeSplit? chars = some (scheme, path)) :
    chars = scheme ++ (separator ++ path) ∧ isAddress path = true := by
  unfold schemeSplit? at split
  dsimp only at split
  cases behind : Text.after? separator (chars.dropWhile Char.isAlphanum) with
  | none => simp [behind] at split
  | some rest =>
    rw [behind] at split
    obtain ⟨addressed, same⟩ := Option.ite_none_left_eq_some.mp split
    cases same
    simp only [Bool.or_eq_true, not_or, Bool.not_eq_true', Bool.not_eq_false] at addressed
    refine ⟨?_, addressed.2⟩
    rw [← Text.after?_eq_some_iff.mp behind, List.takeWhile_append_dropWhile]

/-- A text has a scheme and a path just if it is spelled with them. -/
theorem scheme?_eq_some_iff : scheme? raw = some (scheme, path) ↔ Spells raw scheme path := by
  constructor
  · intro reads
    obtain ⟨⟨first, second⟩, split, same⟩ := Option.map_eq_some_iff.mp reads
    cases same
    obtain ⟨whole, addressed⟩ := of_schemeSplit? split
    refine ⟨isProtocol_of_schemeSplit? split, ?_, ?_⟩
    · rwa [String.toList_ofList, ← isAddress_iff]
    · rw [← String.toList_inj, whole]
      simp [separator]
  · rintro ⟨protocol, address, rfl⟩
    have split := schemeSplit?_canonicalId protocol path
    rw [if_pos (isAddress_iff.mpr address)] at split
    have read : scheme? (canonicalId (some scheme) path) = some (scheme, path) := by
      rw [scheme?, split]
      simp
    exact read

/-- A text is spelled with one scheme and one path. -/
theorem Spells.unique (spells : Spells raw scheme path) {other rest : String}
    (also : Spells raw other rest) : scheme = other ∧ path = rest := by
  have same := (scheme?_eq_some_iff.mpr spells).symm.trans (scheme?_eq_some_iff.mpr also)
  simpa using same

/-! ## The three forms -/

theorem Spells.isLocal_eq_false (spells : Spells raw scheme path) : isLocal raw = false := by
  rw [spells.whole]
  exact isLocal_canonicalId spells.protocol path

theorem classify_of_local (accepted : isLocal raw = true) :
    classify raw = ⟨some fileProtocol, raw, .path⟩ := by
  rw [classify_eq, if_pos accepted]

theorem Spells.classify (spells : Spells raw scheme path) :
    classify raw = ⟨some scheme, path, .scheme⟩ := by
  rw [classify_eq, spells.isLocal_eq_false, scheme?_eq_some_iff.mpr spells]
  rfl

theorem classify_of_unspelled (foreign : isLocal raw = false)
    (unspelled : ¬ ∃ scheme path, Spells raw scheme path) : Identifier.classify raw = ⟨none, raw, .bare⟩ := by
  have unread : scheme? raw = none := by
    cases read : scheme? raw with
    | none => rfl
    | some parts => exact absurd ⟨parts.1, parts.2, scheme?_eq_some_iff.mp read⟩ unspelled
  rw [classify_eq, foreign, unread]
  rfl

/-- What a text is read as by the grammar of the three forms. -/
inductive Reads (raw : String) : Identifier → Prop
  | path (accepted : isLocal raw = true) : Reads raw ⟨some "file", raw, .path⟩
  | scheme {scheme path : String} (spelled : Spells raw scheme path) :
      Reads raw ⟨some scheme, path, .scheme⟩
  | bare (foreign : isLocal raw = false) (unspelled : ¬ ∃ scheme path, Spells raw scheme path) :
      Reads raw ⟨none, raw, .bare⟩

theorem reads_classify (raw : String) : Reads raw (classify raw) := by
  by_cases accepted : isLocal raw = true
  · rw [classify_of_local accepted]
    exact .path accepted
  · rw [Bool.not_eq_true] at accepted
    by_cases spelled : ∃ scheme path, Spells raw scheme path
    · obtain ⟨scheme, path, spells⟩ := spelled
      rw [spells.classify]
      exact .scheme spells
    · rw [classify_of_unspelled accepted spelled]
      exact .bare accepted spelled

/-- No two texts are read as the same identifier. -/
theorem Reads.unique {other : String} {identifier : Identifier} (reads : Reads raw identifier)
    (also : Reads other identifier) : raw = other := by
  cases reads with
  | path =>
    cases also
    rfl
  | scheme spells =>
    cases also with
    | scheme same => rw [spells.whole, same.whole]
  | bare =>
    cases also
    rfl

theorem Reads.eq_classify {identifier : Identifier} (reads : Reads raw identifier) :
    classify raw = identifier := by
  cases reads with
  | path accepted => exact classify_of_local accepted
  | scheme spells => exact spells.classify
  | bare foreign unspelled => exact classify_of_unspelled foreign unspelled

/-- Identifiers are read exactly and without loss. No text is both a local path and spelled with a scheme. A
text has a scheme and a path just if it is spelled with them, in the one way in which it is, and it is read as
what the grammar of the three forms says: as a path just if it is a local one, with a scheme just if it is
spelled with one, and then its canonical id is the text itself. Different texts are read differently. -/
theorem identifiers_are_read_exactly (raw : String) :
    ¬ (isLocal raw = true ∧ (scheme? raw).isSome = true) ∧
    (∀ scheme path, scheme? raw = some (scheme, path) ↔ Spells raw scheme path) ∧
    (∀ identifier, classify raw = identifier ↔ Reads raw identifier) ∧
    ((classify raw).kind = .path ↔ isLocal raw = true) ∧
    ((classify raw).kind = .scheme ↔ ∃ scheme path, Spells raw scheme path) ∧
    (∀ scheme path, Spells raw scheme path → (classify raw).canonical = raw ∧
      ∀ other rest, Spells raw other rest → other = scheme ∧ rest = path) ∧
    ∀ other, classify other = classify raw → other = raw := by
  have reads := reads_classify raw
  refine ⟨?_, fun _ _ => scheme?_eq_some_iff, ?_, ?_, ?_, ?_, ?_⟩
  · rintro ⟨accepted, read⟩
    obtain ⟨parts, read⟩ := Option.isSome_iff_exists.mp read
    have foreign := (scheme?_eq_some_iff.mp read).isLocal_eq_false
    rw [accepted] at foreign
    cases foreign
  · exact fun identifier => ⟨fun same => same ▸ reads, Reads.eq_classify⟩
  · generalize classify raw = identifier at reads
    cases reads with
    | path accepted => simp [accepted]
    | scheme spells => simp [spells.isLocal_eq_false]
    | bare foreign => simp [foreign]
  · generalize classify raw = identifier at reads
    cases reads with
    | path accepted =>
      simp only [reduceCtorEq, false_iff, not_exists]
      intro scheme path spells
      exact absurd accepted (by simp [spells.isLocal_eq_false])
    | scheme spells => simpa using ⟨_, _, spells⟩
    | bare foreign unspelled => simpa using unspelled
  · intro scheme path spells
    rw [spells.classify]
    exact ⟨spells.whole.symm, fun other rest also => also.unique spells⟩
  · intro other same
    have also := reads_classify other
    rw [same] at also
    exact also.unique reads

end ModuleSystem.Identifier
