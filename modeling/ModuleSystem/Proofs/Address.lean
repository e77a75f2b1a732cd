import ModuleSystem.Proofs.Origin

/-! # Canonical ids as identifiers

A canonical id with a protocol is read as that protocol and its id as long as the id can stand in an
address, and as a bare name otherwise. Of the normal paths only those with one leading slash can stand in
an address, the root left out, and only if they are spelled with ASCII letters, digits, dots and
hyphens. -/

namespace ModuleSystem.Identifier

open ModuleSystem.Path (NormalPath IsPlain)

variable {raw name id : String}

/-- Whether an id can stand behind the scheme of an address. -/
def isAddress (id : List Char) : Bool :=
  isSchemePath false (if id.head? = some '/' then id.tail else id)

theorem dropWhile_separator (chars : List Char) :
    (separator ++ chars).dropWhile Char.isAlphanum = separator ++ chars := rfl

theorem schemeSplit?_canonicalId (protocol : IsProtocol name) (id : String) :
    schemeSplit? (canonicalId (some name) id).toList =
      if isAddress id.toList then some (name.toList, id.toList) else none := by
  have behind : (canonicalId (some name) id).toList.dropWhile Char.isAlphanum =
      separator ++ id.toList := by
    rw [toList_canonicalId, List.dropWhile_append_of_pos protocol.alphanum, dropWhile_separator]
  have split : Text.after? separator (separator ++ id.toList) = some id.toList :=
    Text.after?_eq_some_iff.mpr rfl
  unfold schemeSplit?
  simp only [protocol.takeWhile, behind, split, List.isEmpty_eq_false_iff.mpr protocol.nonempty,
    Bool.false_or]
  change (if (!isAddress id.toList) = true then none else _) = _
  cases isAddress id.toList <;> rfl

theorem isLocal_canonicalId (protocol : IsProtocol name) (id : String) :
    isLocal (canonicalId (some name) id) = false := by
  obtain ⟨nonempty, alphanum⟩ := protocol
  unfold isLocal
  rw [toList_canonicalId]
  cases chars : name.toList with
  | nil => exact absurd chars nonempty
  | cons c rest =>
    -- a letter or digit is neither of the characters that begin a local path
    have first : c.isAlphanum = true := alphanum c (by simp [chars])
    have ne_slash : c ≠ '/' := by rintro rfl; exact absurd first (by decide)
    have ne_dot : c ≠ '.' := by rintro rfl; exact absurd first (by decide)
    simp [isLocalChars, ne_slash, ne_dot]

/-- What the canonical id of a protocol is read as. -/
theorem classify_canonicalId (protocol : IsProtocol name) (id : String) :
    classify (canonicalId (some name) id) =
      if isAddress id.toList then ⟨some name, id, .scheme⟩
      else ⟨none, canonicalId (some name) id, .bare⟩ := by
  rw [classify_eq]
  unfold scheme?
  rw [isLocal_canonicalId protocol, schemeSplit?_canonicalId protocol]
  cases isAddress id.toList
  · rfl
  · simp only [if_true, Option.map_some, String.ofList_toList, Bool.false_eq_true, if_false]

/-- A bare name is kept as it is. -/
theorem classify_bare (bare : (classify raw).protocol = none) :
    (classify raw).id = raw ∧ isLocal raw = false := by
  rw [classify_eq] at bare ⊢
  cases foreign : isLocal raw with
  | true => simp [foreign] at bare
  | false =>
    cases split : scheme? raw with
    | none => exact ⟨rfl, rfl⟩
    | some parts => simp [foreign, split] at bare

/-- A text that begins with a slash is a local path, or else a bare name. -/
theorem classify_of_slash (slash : raw.toList.head? = some '/') :
    (classify raw).protocol = none ↔ isLocal raw = false := by
  have unsplit : scheme? raw = none := by
    unfold scheme? schemeSplit?
    cases chars : raw.toList with
    | nil => simp [chars] at slash
    | cons c rest =>
      cases (by simpa [chars] using slash : c = '/')
      rfl
  rw [classify_eq, unsplit]
  cases isLocal raw <;> simp

/-- Every protocol but that of local paths is read from an address. -/
theorem isAddress_of_classify (read : (classify raw).protocol = some name)
    (other : name ≠ fileProtocol) : isAddress (classify raw).id.toList = true := by
  rw [classify_eq] at read ⊢
  split at read
  · cases read
    exact absurd rfl other
  · rename_i foreign
    cases split : scheme? raw with
    | none => simp [split] at read
    | some parts =>
      obtain ⟨⟨scheme, path⟩, parsed, rfl⟩ := Option.map_eq_some_iff.mp split
      simp only [Bool.not_eq_true] at foreign
      simp only [foreign, Bool.false_eq_true, if_false, String.toList_ofList]
      unfold schemeSplit? at parsed
      dsimp only at parsed
      split at parsed
      · cases parsed
      · obtain ⟨addressed, same⟩ := Option.ite_none_left_eq_some.mp parsed
        cases same
        simp only [Bool.or_eq_true, not_or, Bool.not_eq_true', Bool.not_eq_false] at addressed
        exact addressed.2

/-! ## Normal paths in addresses -/

theorem isSchemePath_append {segment : List Char} (slashless : '/' ∉ segment) (begun : Bool)
    (rest : List Char) : isSchemePath begun (segment ++ rest) =
      (segment.all isSchemePathChar && isSchemePath (begun || !segment.isEmpty) rest) := by
  induction segment generalizing begun with
  | nil => simp
  | cons c more ih =>
    have other : c ≠ '/' := fun same => slashless (by simp [same])
    simp only [List.cons_append, isSchemePath, if_neg other, List.all_cons,
      ih (fun member => slashless (by simp [member])), Bool.true_or, List.isEmpty_cons, Bool.not_false,
      Bool.or_true, Bool.and_assoc]

/-- Segments with slashes between them can stand in an address if there are any, none is empty, and their
characters can. -/
theorem isSchemePath_intercalate {segments : List (List Char)}
    (slashless : ∀ segment ∈ segments, '/' ∉ segment) :
    isSchemePath false (['/'].intercalate segments) =
      (!segments.isEmpty && segments.all fun segment =>
        !segment.isEmpty && segment.all isSchemePathChar) := by
  induction segments with
  | nil => rfl
  | cons segment rest ih =>
    obtain ⟨first, others⟩ := List.forall_mem_cons.mp slashless
    cases rest with
    | nil =>
      have read := isSchemePath_append first false []
      rw [List.append_nil] at read
      simp [read, isSchemePath, Bool.and_comm]
    | cons next more =>
      have tail := ih others
      simp only [List.isEmpty_cons, Bool.not_false, Bool.true_and] at tail
      rw [List.intercalate_cons_cons, List.append_assoc, isSchemePath_append first]
      simp [isSchemePath, tail, Bool.and_assoc, Bool.and_left_comm]

/-- A path that can stand in an address: it has one leading slash and some segments, which are spelled
with the characters of addresses. -/
structure IsAddressed (path : NormalPath) : Prop where
  single : path.slashes = 1
  deep : path.segments ≠ []
  spelled : ∀ segment ∈ path.segments, segment.all isSchemePathChar = true

theorem isAddress_chars_iff (path : NormalPath) : isAddress path.chars = true ↔ IsAddressed path := by
  unfold isAddress
  rw [if_pos path.head?_chars, path.chars_eq]
  rcases path.rooted with one | two
  · rw [one, List.replicate_one, List.singleton_append, List.tail_cons,
      isSchemePath_intercalate fun segment member => (path.plain segment member).slashless]
    constructor
    · intro addressed
      simp only [Bool.and_eq_true, Bool.not_eq_true', List.isEmpty_eq_false_iff, List.all_eq_true]
        at addressed
      exact ⟨one, addressed.1,
        fun segment member => List.all_eq_true.mpr (addressed.2 segment member).2⟩
    · rintro ⟨_, deep, spelled⟩
      simpa [deep] using fun segment member =>
        ⟨(path.plain segment member).nonempty, List.all_eq_true.mp (spelled segment member)⟩
  · refine ⟨fun addressed => ?_, fun addressed => ?_⟩
    · rw [two] at addressed
      cases addressed
    · exact absurd (two.symm.trans addressed.single) (by decide)

end ModuleSystem.Identifier
