import Mathlib.Data.List.Forall2
import Mathlib.Data.List.TakeWhile
import ModuleSystem.Document
import ModuleSystem.Proofs.Charset

/-! # Texts with a declared character set

A content type declares a character set by the first `charset` parameter in it. Bytes that were written in
the declared set are read back as the text that they were written from; where no set is declared, or none
that there is, this holds of bytes in UTF-8. Only a label with a NUL is refused. -/

namespace ModuleSystem.Text

/-! ## Parameters -/

/-- A text begins with a `charset` parameter: the word in any case, an equals sign with blanks around it,
and a value up to a blank, a semicolon or the end. -/
inductive Declares (value : List Char) : List Char → Prop
  | intro {word before behind rest : List Char}
      (spelled : List.Forall₂ (fun letter c => isHeaderLetter letter c = true) "charset".toList word)
      (blankBefore : ∀ c ∈ before, isBlank c = true) (blankBehind : ∀ c ∈ behind, isBlank c = true)
      (filled : value ≠ []) (unbroken : ∀ c ∈ value, isBlank c = false ∧ c ≠ ';')
      (ends : ∀ c ∈ rest.head?, isBlank c = true ∨ c = ';') :
      Declares value (word ++ (before ++ '=' :: (behind ++ (value ++ rest))))

theorem isLabelChar_eq_true_iff {c : Char} : isLabelChar c = true ↔ isBlank c = false ∧ c ≠ ';' := by
  simp [isLabelChar]

theorem afterWord?_eq_some_iff {word chars rest : List Char} :
    afterWord? word chars = some rest ↔
      ∃ spelling, List.Forall₂ (fun letter c => isHeaderLetter letter c = true) word spelling ∧
        chars = spelling ++ rest := by
  induction word generalizing chars with
  | nil =>
    simp only [afterWord?, Option.some.injEq, List.forall₂_nil_left_iff, exists_eq_left,
      List.nil_append]
  | cons letter more ih =>
    cases chars with
    | nil => simp [afterWord?, List.forall₂_cons_left_iff]
    | cons c tail =>
      simp only [afterWord?, List.forall₂_cons_left_iff]
      constructor
      · intro found
        split at found
        · obtain ⟨spelling, spelled, rfl⟩ := ih.mp found
          exact ⟨c :: spelling, ⟨c, spelling, ‹_›, spelled, rfl⟩, rfl⟩
        · cases found
      · rintro ⟨_, ⟨d, spelling, meets, spelled, rfl⟩, split⟩
        obtain ⟨rfl, rfl⟩ := List.cons_eq_cons.mp split
        rw [if_pos meets]
        exact ih.mpr ⟨spelling, spelled, rfl⟩

theorem dropWhile_append_eq {drop : Char → Bool} {front back : List Char}
    (dropped : ∀ c ∈ front, drop c = true) (kept : ∀ c ∈ back.head?, drop c = false) :
    (front ++ back).dropWhile drop = back := by
  rw [List.dropWhile_append_of_pos dropped]
  cases back with
  | nil => rfl
  | cons c rest => rw [List.dropWhile_cons_of_neg (by simp [kept c rfl])]

theorem takeWhile_append_eq {take : Char → Bool} {front back : List Char}
    (taken : ∀ c ∈ front, take c = true) (left : ∀ c ∈ back.head?, take c = false) :
    (front ++ back).takeWhile take = front := by
  rw [List.takeWhile_append_of_pos taken]
  cases back with
  | nil => simp
  | cons c rest => rw [List.takeWhile_cons_of_neg (by simp [left c rfl]), List.append_nil]

theorem declares_of_labelHere? {chars value : List Char} (found : labelHere? chars = some value) :
    Declares value chars := by
  unfold labelHere? at found
  split at found
  · cases found
  · rename_i behindWord word
    obtain ⟨spelling, spelled, rfl⟩ := afterWord?_eq_some_iff.mp word
    split at found
    · rename_i behindSign sign
      dsimp only at found
      split at found
      · cases found
      · rename_i filled
        cases found
        have ends : ∀ c ∈ ((behindSign.dropWhile isBlank).dropWhile isLabelChar).head?,
            isBlank c = true ∨ c = ';' := by
          intro c first
          have stops := List.head?_dropWhile_not isLabelChar (behindSign.dropWhile isBlank)
          rw [Option.mem_def.mp first] at stops
          simpa [isLabelChar, or_iff_not_imp_left] using stops
        have declares := Declares.intro spelled
          (fun c member => List.mem_takeWhile_imp (l := behindWord) member)
          (fun c member => List.mem_takeWhile_imp (l := behindSign) member)
          (List.isEmpty_eq_false_iff.mp (Bool.eq_false_iff.mpr filled))
          (fun c member => isLabelChar_eq_true_iff.mp (List.mem_takeWhile_imp member)) ends
        rwa [List.takeWhile_append_dropWhile, List.takeWhile_append_dropWhile, ← sign,
          List.takeWhile_append_dropWhile] at declares
    · cases found

theorem labelHere?_of_declares {chars value : List Char} (declares : Declares value chars) :
    labelHere? chars = some value := by
  obtain @⟨word, before, behind, rest, spelled, blankBefore, blankBehind, filled, unbroken, ends⟩ := declares
  have word := afterWord?_eq_some_iff.mpr
    ⟨word, spelled, rfl (a := word ++ (before ++ '=' :: (behind ++ (value ++ rest))))⟩
  have sign : (before ++ '=' :: (behind ++ (value ++ rest))).dropWhile isBlank =
      '=' :: (behind ++ (value ++ rest)) := by
    refine dropWhile_append_eq blankBefore fun c first => ?_
    cases first
    decide
  have start : (behind ++ (value ++ rest)).dropWhile isBlank = value ++ rest := by
    refine dropWhile_append_eq blankBehind fun c first => ?_
    rw [List.head?_append_of_ne_nil _ filled] at first
    exact (unbroken c (List.mem_of_mem_head? first)).1
  have whole : (value ++ rest).takeWhile isLabelChar = value := by
    refine takeWhile_append_eq (fun c member => isLabelChar_eq_true_iff.mpr (unbroken c member)) ?_
    intro c first
    rcases ends c first with blank | semicolon
    · simp [isLabelChar, blank]
    · simp [isLabelChar, semicolon]
  simp only [labelHere?, word, sign, start, whole]
  rw [if_neg (by simpa using filled)]

theorem labelHere?_eq_some_iff {chars value : List Char} :
    labelHere? chars = some value ↔ Declares value chars :=
  ⟨declares_of_labelHere?, labelHere?_of_declares⟩

/-- A `charset` parameter of a text, and none begins before it. -/
def FirstDeclares (value text : List Char) : Prop :=
  ∃ rest, rest <:+ text ∧ Declares value rest ∧
    ∀ earlier, earlier <:+ text → rest.length < earlier.length → ∀ other, ¬ Declares other earlier

theorem labelHere?_eq_none {chars : List Char} (undeclared : ∀ value, ¬ Declares value chars) :
    labelHere? chars = none :=
  Option.eq_none_iff_forall_ne_some.mpr fun value found =>
    undeclared value (labelHere?_eq_some_iff.mp found)

theorem firstLabel?_of_first {value text : List Char} (first : FirstDeclares value text) :
    firstLabel? text = some value := by
  obtain ⟨rest, inside, declares, unprecedented⟩ := first
  induction text with
  | nil =>
    obtain rfl := List.suffix_nil.mp inside
    cases labelHere?_eq_some_iff.mpr declares
  | cons c tail ih =>
    rw [firstLabel?]
    rcases List.suffix_cons_iff.mp inside with rfl | later
    · rw [labelHere?_eq_some_iff.mpr declares]
    · have longer : rest.length < (c :: tail).length := Nat.lt_succ_of_le later.length_le
      rw [labelHere?_eq_none (unprecedented _ List.suffix_rfl longer)]
      exact ih later fun earlier behind => unprecedented earlier (behind.trans (List.suffix_cons c tail))

theorem firstLabel?_eq_none {text : List Char}
    (undeclared : ∀ rest, rest <:+ text → ∀ value, ¬ Declares value rest) : firstLabel? text = none := by
  induction text with
  | nil => rfl
  | cons c tail ih =>
    rw [firstLabel?, labelHere?_eq_none (undeclared _ List.suffix_rfl)]
    exact ih fun rest inside => undeclared rest (inside.trans (List.suffix_cons c tail))

/-! ## Labels -/

/-- Whether a character belongs to a word of a label. -/
def isLabelWordChar (c : Char) : Bool := c.isAlphanum || c = '.'

/-- Without a word before it, it does not matter whether there is a gap. -/
theorem labelWords_gap (gap : Bool) (chars : List Char) :
    labelWords false gap chars = labelWords false false chars := by
  cases chars with
  | nil => rfl
  | cons c rest => simp [labelWords]

theorem labelWords_of_signs {signs : List Char} (apart : ∀ c ∈ signs, isLabelWordChar c = false)
    (begun gap : Bool) : labelWords begun gap signs = [] := by
  induction signs generalizing gap with
  | nil => rfl
  | cons c rest ih =>
    obtain ⟨first, later⟩ := List.forall_mem_cons.mp apart
    rw [labelWords, if_neg (by simpa [isLabelWordChar] using first)]
    exact ih later true

theorem labelWords_signs_append {signs : List Char} (apart : ∀ c ∈ signs, isLabelWordChar c = false)
    (gap : Bool) (chars : List Char) :
    labelWords false gap (signs ++ chars) = labelWords false false chars := by
  induction signs generalizing gap with
  | nil => exact labelWords_gap gap chars
  | cons c rest ih =>
    obtain ⟨first, later⟩ := List.forall_mem_cons.mp apart
    rw [List.cons_append, labelWords, if_neg (by simpa [isLabelWordChar] using first)]
    exact ih later true

theorem labelWords_append_signs {signs : List Char} (apart : ∀ c ∈ signs, isLabelWordChar c = false)
    (begun gap : Bool) (chars : List Char) :
    labelWords begun gap (chars ++ signs) = labelWords begun gap chars := by
  induction chars generalizing begun gap with
  | nil => exact labelWords_of_signs apart begun gap
  | cons c rest ih => simp only [List.cons_append, labelWords, ih]

/-- Quotes around a label. -/
def isQuote (c : Char) : Bool := c = '"' || c = '\''

theorem isLabelWordChar_toLower_of_quote {c : Char} (quote : isQuote c = true) :
    isLabelWordChar c.toLower = false := by
  have quotes : c = '"' ∨ c = '\'' := by simpa [isQuote] using quote
  rcases quotes with rfl | rfl
  · decide
  · decide

/-- Quotes around a label do not change what it names. -/
theorem ofLabel?_quotes {front back : List Char} (opens : ∀ c ∈ front, isQuote c = true)
    (closes : ∀ c ∈ back, isQuote c = true) (label : List Char) :
    Charset.ofLabel? (String.ofList (front ++ (label ++ back))) =
      Charset.ofLabel? (String.ofList label) := by
  have before : ∀ c ∈ front.map Char.toLower, isLabelWordChar c = false :=
    List.forall_mem_map.mpr fun c member => isLabelWordChar_toLower_of_quote (opens c member)
  have behind : ∀ c ∈ back.map Char.toLower, isLabelWordChar c = false :=
    List.forall_mem_map.mpr fun c member => isLabelWordChar_toLower_of_quote (closes c member)
  have normal : normalizeLabel (String.ofList (front ++ (label ++ back))) =
      normalizeLabel (String.ofList label) := by
    simp only [normalizeLabel, String.toList_ofList, List.map_append]
    rw [labelWords_signs_append before, labelWords_append_signs behind]
  simp only [Charset.ofLabel?, normal]

/-- Trimming takes something off both ends. -/
theorem exists_trim (drop : Char → Bool) (chars : List Char) :
    ∃ front back, chars = front ++ (trim drop chars ++ back) ∧ (∀ c ∈ front, drop c = true) ∧
      ∀ c ∈ back, drop c = true := by
  refine ⟨chars.takeWhile drop, ((chars.dropWhile drop).reverse.takeWhile drop).reverse, ?_,
    fun c member => List.mem_takeWhile_imp member,
    fun c member => List.mem_takeWhile_imp (List.mem_reverse.mp member)⟩
  rw [trim, trimRight, trimLeft, ← List.reverse_append, List.takeWhile_append_dropWhile,
    List.reverse_reverse, List.takeWhile_append_dropWhile]

/-- A value without the quotes that it is in. -/
def unquote (value : List Char) : List Char := trim (· = '\'') (trim (· = '"') value)

theorem exists_unquote (value : List Char) :
    ∃ front back, value = front ++ (unquote value ++ back) ∧ (∀ c ∈ front, isQuote c = true) ∧
      ∀ c ∈ back, isQuote c = true := by
  obtain ⟨front, back, outer, opens, closes⟩ := exists_trim (· = '"') value
  obtain ⟨start, stop, inner, starts, stops⟩ := exists_trim (· = '\'') (trim (· = '"') value)
  refine ⟨front ++ start, stop ++ back, ?_, fun c member => ?_, fun c member => ?_⟩
  · rw [unquote]
    calc value = front ++ (trim (· = '"') value ++ back) := outer
      _ = front ++ ((start ++ (trim (· = '\'') (trim (· = '"') value) ++ stop)) ++ back) := by
        rw [← inner]
      _ = _ := by simp only [List.append_assoc]
  · rcases List.mem_append.mp member with first | last
    · simp [isQuote, of_decide_eq_true (opens c first)]
    · simp [isQuote, of_decide_eq_true (starts c last)]
  · rcases List.mem_append.mp member with first | last
    · simp [isQuote, of_decide_eq_true (stops c first)]
    · simp [isQuote, of_decide_eq_true (closes c last)]

/-- A value is a label, as it is or in quotes of one kind. -/
inductive Quotes (label : List Char) : List Char → Prop
  | bare : Quotes label label
  | double : Quotes label ('"' :: (label ++ ['"']))
  | single : Quotes label ('\'' :: (label ++ ['\'']))

theorem Quotes.exists_parts {label value : List Char} (quotes : Quotes label value) :
    ∃ front back, value = front ++ (label ++ back) ∧ (∀ c ∈ front, isQuote c = true) ∧
      ∀ c ∈ back, isQuote c = true := by
  cases quotes with
  | bare => exact ⟨[], [], by simp, by simp, by simp⟩
  | double => exact ⟨['"'], ['"'], rfl, by simp [isQuote], by simp [isQuote]⟩
  | single => exact ⟨['\''], ['\''], rfl, by simp [isQuote], by simp [isQuote]⟩

/-- The first `charset` parameter of a content type has a label for its value. -/
def Labels (contentType label : String) : Prop :=
  ∃ value, Quotes label.toList value ∧ FirstDeclares value contentType.toList

/-- A content type has no `charset` parameter. -/
def Unlabelled (contentType : String) : Prop :=
  ∀ rest, rest <:+ contentType.toList → ∀ value, ¬ Declares value rest

/-- The label that is read off a content type names what the given one names, and has a NUL where that one
has one. -/
theorem Labels.exists_label {contentType label : String} (labels : Labels contentType label) :
    ∃ found, charsetLabel? contentType = some found ∧
      Charset.ofLabel? found = Charset.ofLabel? label ∧
      ('\x00' ∈ found.toList ↔ '\x00' ∈ label.toList) := by
  obtain ⟨value, quotes, first⟩ := labels
  refine ⟨String.ofList (unquote value), ?_, ?_⟩
  · rw [charsetLabel?, firstLabel?_of_first first, Option.map_some, unquote]
  obtain ⟨front, back, given, opens, closes⟩ := quotes.exists_parts
  obtain ⟨start, stop, read, starts, stops⟩ := exists_unquote value
  constructor
  · calc Charset.ofLabel? (String.ofList (unquote value))
        = Charset.ofLabel? (String.ofList value) := by
          rw [← ofLabel?_quotes starts stops, ← read]
      _ = Charset.ofLabel? (String.ofList label.toList) := by
          rw [given, ofLabel?_quotes opens closes]
      _ = Charset.ofLabel? label := by rw [String.ofList_toList]
  · have within {inner before behind : List Char} (split : value = before ++ (inner ++ behind))
        (quotesBefore : ∀ c ∈ before, isQuote c = true)
        (quotesBehind : ∀ c ∈ behind, isQuote c = true) :
        '\x00' ∈ inner ↔ '\x00' ∈ value := by
      have noneBefore : '\x00' ∉ before := fun member => by cases quotesBefore _ member
      have noneBehind : '\x00' ∉ behind := fun member => by cases quotesBehind _ member
      simp [split, noneBefore, noneBehind]
    rw [String.toList_ofList]
    exact (within read starts stops).trans (within given opens closes).symm

end ModuleSystem.Text

namespace ModuleSystem.Document

open Text (Charset Labels Unlabelled)

/-- Bytes are decoded in the character set that is asked for, unless its label has a NUL. -/
theorem decodeText_bytes {contentType : Option String} {charset : Charset} {bytes : List UInt8}
    {text : String} (asked : Text.charsetOf contentType = charset)
    (named : Text.hasBadLabel contentType = false)
    (written : charset.encode? text.toList = some bytes) :
    decodeText contentType (.scalar (.bytes bytes)) = .ok text := by
  rw [decodeText, named, if_neg Bool.false_ne_true, Text.decodeBytes, asked,
    Charset.decode_of_encode? written, String.ofList_toList]

/-- Text that was written in the character set that a content type declares is read back. So is text in
UTF-8 if no set is declared, or none that there is. A label with a NUL is refused, whatever it names. -/
theorem decoding_undoes_encoding (text : String) :
    (∀ contentType label charset bytes, Labels contentType label → '\x00' ∉ label.toList →
      Charset.ofLabel? label = some charset → charset.encode? text.toList = some bytes →
      decodeText (some contentType) (.scalar (.bytes bytes)) = .ok text) ∧
    (∀ contentType label, Labels contentType label → '\x00' ∉ label.toList →
      Charset.ofLabel? label = none →
      decodeText (some contentType) (.scalar (.bytes (Text.encodeUtf8 text.toList))) = .ok text) ∧
    (∀ contentType : Option String, (∀ header ∈ contentType, Unlabelled header) →
      decodeText contentType (.scalar (.bytes (Text.encodeUtf8 text.toList))) = .ok text) ∧
    (∀ contentType label bytes, Labels contentType label → '\x00' ∈ label.toList →
      decodeText (some contentType) (.scalar (.bytes bytes)) = .error .badLabel) := by
  refine ⟨?_, ?_, ?_, ?_⟩
  · intro contentType label charset bytes labels whole names written
    obtain ⟨found, read, same, nul⟩ := labels.exists_label
    refine decodeText_bytes ?_ ?_ written
    · simp [Text.charsetOf, read, same, names]
    · simp [Text.hasBadLabel, read, nul, whole]
  · intro contentType label labels whole unnamed
    obtain ⟨found, read, same, nul⟩ := labels.exists_label
    have asked : Text.charsetOf (some contentType) = .utf8 := by
      simp [Text.charsetOf, read, same, unnamed]
    refine decodeText_bytes asked ?_ rfl
    simp [Text.hasBadLabel, read, nul, whole]
  · intro contentType unlabelled
    have unread : contentType.bind Text.charsetLabel? = none := by
      cases contentType with
      | none => rfl
      | some header =>
        rw [Option.bind_some, Text.charsetLabel?,
          Text.firstLabel?_eq_none (unlabelled header rfl), Option.map_none]
    have asked : Text.charsetOf contentType = .utf8 := by simp [Text.charsetOf, unread]
    refine decodeText_bytes asked ?_ rfl
    simp [Text.hasBadLabel, unread]
  · intro contentType label bytes labels broken
    obtain ⟨found, read, _, nul⟩ := labels.exists_label
    have bad : Text.hasBadLabel (some contentType) = true := by
      simp [Text.hasBadLabel, read, nul, broken]
    rw [decodeText, bad, if_pos rfl]

example : decodeText (some "text/html; Charset = \"ISO-8859-1\"; q=1") (.scalar (.bytes [0xE9])) =
    .ok "é" := by rfl

/-- A label that names no character set, and yet its text is not read as UTF-8. -/
theorem nul_label_is_refused :
    Charset.ofLabel? "a\x00b" = none ∧
      decodeText (some "text/plain; charset=a\x00b") (.scalar (.bytes (Text.encodeUtf8 ['a']))) =
        .error .badLabel := by
  constructor
  · rfl
  · rfl

end ModuleSystem.Document
