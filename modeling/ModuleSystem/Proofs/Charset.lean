import ModuleSystem.Proofs.Utf8
import ModuleSystem.Text.Charset

/-! # Writing and reading character sets

A character set writes the characters that it has, each by bytes of its own, and some of them begin a text
with a byte-order mark. What a character set has written it reads back: no byte of it is taken for
malformed, and of a text that begins with a mark of its own only the added one goes. -/

namespace ModuleSystem.Text

/-! ## Sets of one byte for each character -/

/-- The byte of a character, in a set that has the characters below a bound. -/
def byteBelow? (bound : Nat) (c : Char) : Option UInt8 :=
  if c.toNat < bound then some (UInt8.ofNat c.toNat) else none

/-- The byte of a character in the Windows set. -/
def windows1252Byte? (c : Char) : Option UInt8 :=
  if c.toNat < 0x80 ∨ 0xA0 ≤ c.toNat ∧ c.toNat < 0x100 then some (UInt8.ofNat c.toNat)
  else (windows1252High.idxOf? c.toNat).map fun place => UInt8.ofNat (0x80 + place)

theorem ofNat_of_byteBelow? {bound : Nat} {c : Char} {b : UInt8} (small : bound ≤ 256)
    (written : byteBelow? bound c = some b) : b.toNat < bound ∧ Char.ofNat b.toNat = c := by
  unfold byteBelow? at written
  split at written
  · cases written
    rw [toNat_ofNat (by omega)]
    exact ⟨‹_›, Char.ofNat_toNat c⟩
  · cases written

theorem windows1252Char_of_byte? {c : Char} {b : UInt8} (written : windows1252Byte? c = some b) :
    windows1252Char b = c := by
  unfold windows1252Byte? at written
  split at written
  · rename_i plain
    cases written
    have byte := toNat_ofNat (n := c.toNat) (by omega)
    simp only [windows1252Char, byte]
    rw [if_neg (by omega), Char.ofNat_toNat]
  · rename_i special
    obtain ⟨place, found, rfl⟩ := Option.map_eq_some_iff.mp written
    obtain ⟨inside, same, _⟩ := List.idxOf?_eq_some_iff.mp found
    have short : place < 32 := inside
    have byte := toNat_ofNat (n := 0x80 + place) (by omega)
    have code : windows1252High.getD place 0 = c.toNat := by
      rw [List.getD_eq_getElem?_getD, List.getElem?_eq_getElem inside, Option.getD_some]
      exact same
    simp only [windows1252Char, byte, Nat.add_sub_cancel_left, code]
    rw [if_pos (by omega)]
    -- the entries that are not assigned are zero, and NUL stands among the plain characters
    split
    · omega
    · exact Char.ofNat_toNat c

/-- What is written character by character is read byte by byte. -/
theorem map_of_mapM {write : Char → Option UInt8} {read : UInt8 → Char} {chars : List Char}
    {bytes : List UInt8} (back : ∀ c b, write c = some b → read b = c)
    (written : chars.mapM write = some bytes) : bytes.map read = chars := by
  induction chars generalizing bytes with
  | nil =>
    cases written
    rfl
  | cons c rest ih =>
    simp only [List.mapM_cons, Option.bind_eq_bind, Option.bind_eq_some_iff, Option.pure_def,
      Option.some.injEq] at written
    obtain ⟨b, first, more, later, rfl⟩ := written
    rw [List.map_cons, back c b first, ih later]

/-! ## UTF-8 and UTF-16 -/

theorem decodeUtf8_encodeUtf8 (chars : List Char) : decodeUtf8 (encodeUtf8 chars) = chars := by
  rw [decodeUtf8, utf8Pieces_encode, List.map_map]
  exact List.map_id chars

/-- The bytes of a unit are read as that unit. -/
theorem exists_bytes (order : ByteOrder) {unit : Nat} (small : unit < 0x10000) :
    ∃ a b, order.bytes unit = [a, b] ∧ order.unit a b = unit := by
  have low := toNat_ofNat (n := unit % 256) (by omega)
  have high := toNat_ofNat (n := unit / 256) (by omega)
  cases order with
  | littleEndian =>
    refine ⟨_, _, rfl, ?_⟩
    simp only [ByteOrder.unit, low, high]
    omega
  | bigEndian =>
    refine ⟨_, _, rfl, ?_⟩
    simp only [ByteOrder.unit, low, high]
    omega

theorem isHighSurrogate_eq_true_iff {unit : Nat} :
    isHighSurrogate unit = true ↔ 0xD800 ≤ unit ∧ unit < 0xDC00 := by
  simp [isHighSurrogate]

theorem isLowSurrogate_eq_true_iff {unit : Nat} :
    isLowSurrogate unit = true ↔ 0xDC00 ≤ unit ∧ unit < 0xE000 := by
  simp [isLowSurrogate]

/-- The bytes of a character are read as that character: in one unit, which is no surrogate, or in a
pair of surrogates. -/
theorem decodeUtf16From_encodeChar (order : ByteOrder) (c : Char) (rest : List UInt8) :
    decodeUtf16From order none (encodeUtf16Char order c ++ rest) =
      c :: decodeUtf16From order none rest := by
  have valid := toNat_valid c
  unfold encodeUtf16Char
  dsimp only
  split
  · obtain ⟨a, b, bytes, unit⟩ := exists_bytes order ‹c.toNat < 0x10000›
    have noHigh : ¬ isHighSurrogate c.toNat = true := by
      rw [isHighSurrogate_eq_true_iff]
      omega
    have noLow : ¬ isLowSurrogate c.toNat = true := by
      rw [isLowSurrogate_eq_true_iff]
      omega
    rw [bytes]
    simp only [List.cons_append, List.nil_append, decodeUtf16From, unit]
    rw [if_neg noHigh, if_neg noLow, Char.ofNat_toNat]
  · have whole : 0x10000 + 1024 * (0xD800 + (c.toNat - 0x10000) / 1024 - 0xD800) +
        (0xDC00 + (c.toNat - 0x10000) % 1024 - 0xDC00) = c.toNat := by omega
    have high : isHighSurrogate (0xD800 + (c.toNat - 0x10000) / 1024) = true := by
      rw [isHighSurrogate_eq_true_iff]
      omega
    have low : isLowSurrogate (0xDC00 + (c.toNat - 0x10000) % 1024) = true := by
      rw [isLowSurrogate_eq_true_iff]
      omega
    have smallHigh : 0xD800 + (c.toNat - 0x10000) / 1024 < 0x10000 := by omega
    have smallLow : 0xDC00 + (c.toNat - 0x10000) % 1024 < 0x10000 := by omega
    obtain ⟨a, b, first, leading⟩ := exists_bytes order smallHigh
    obtain ⟨d, e, second, trailing⟩ := exists_bytes order smallLow
    rw [first, second]
    simp only [List.cons_append, List.nil_append, decodeUtf16From, leading, trailing]
    rw [if_pos high, if_pos low, joinSurrogates, whole, Char.ofNat_toNat]

theorem decodeUtf16As_encode (order : ByteOrder) (chars : List Char) :
    decodeUtf16As order (encodeUtf16As order chars) = chars := by
  unfold decodeUtf16As encodeUtf16As
  induction chars with
  | nil => rfl
  | cons c rest ih => rw [List.flatMap_cons, decodeUtf16From_encodeChar, ih]

/-- The byte-order mark of UTF-16. -/
def ByteOrder.mark (order : ByteOrder) : List UInt8 := order.bytes 0xFEFF

/-- The mark tells the order, and goes. -/
theorem decodeUtf16_marked (order : ByteOrder) (chars : List Char) :
    decodeUtf16 (order.mark ++ encodeUtf16As order chars) = chars := by
  cases order with
  | littleEndian => exact decodeUtf16As_encode _ chars
  | bigEndian => exact decodeUtf16As_encode _ chars

/-! ## All sets -/

/-- The bytes of a text in a character set, if the set has all its characters. UTF-16 without an order of
its own is written in the little-endian one, behind its mark. -/
def Charset.encode? (charset : Charset) (chars : List Char) : Option (List UInt8) :=
  match charset with
  | .utf8 => some (encodeUtf8 chars)
  | .utf8WithMark => some (utf8Mark ++ encodeUtf8 chars)
  | .ascii => chars.mapM (byteBelow? 128)
  | .latin1 => chars.mapM (byteBelow? 256)
  | .windows1252 => chars.mapM windows1252Byte?
  | .utf16 => some (ByteOrder.littleEndian.mark ++ encodeUtf16As .littleEndian chars)
  | .utf16As order => some (encodeUtf16As order chars)

/-- What a character set has written it reads back. -/
theorem Charset.decode_of_encode? {charset : Charset} {chars : List Char} {bytes : List UInt8}
    (written : charset.encode? chars = some bytes) : charset.decode bytes = chars := by
  cases charset with
  | utf8 =>
    cases written
    exact decodeUtf8_encodeUtf8 chars
  | utf8WithMark =>
    cases written
    exact decodeUtf8_encodeUtf8 chars
  | ascii =>
    refine map_of_mapM (fun c b byte => ?_) written
    obtain ⟨small, same⟩ := ofNat_of_byteBelow? (by decide) byte
    rw [if_pos small, same]
  | latin1 => exact map_of_mapM (fun c b byte => (ofNat_of_byteBelow? (by decide) byte).2) written
  | windows1252 => exact map_of_mapM (fun c b => windows1252Char_of_byte?) written
  | utf16 =>
    cases written
    exact decodeUtf16_marked .littleEndian chars
  | utf16As order =>
    cases written
    exact decodeUtf16As_encode order chars

end ModuleSystem.Text
