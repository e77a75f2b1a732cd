import ModuleSystem.Text.Charset.Utf8

/-! # Decoding what was encoded

The bytes of a character take the machine from between characters back there, with the character as its
one piece. So what was encoded is decoded to itself. -/

namespace ModuleSystem.Text

theorem toNat_valid (c : Char) : c.toNat < 0xD800 ∨ 0xE000 ≤ c.toNat ∧ c.toNat < 0x110000 := by
  rcases c.valid with low | ⟨high, bound⟩
  · exact .inl low
  · exact .inr ⟨high, bound⟩

theorem toNat_ofNat {n : Nat} (small : n < 256) : (UInt8.ofNat n).toNat = n := by
  rw [UInt8.toNat_ofNat', Nat.mod_eq_of_lt small]

/-- A byte after the first one of a character holds six bits of it. -/
theorem toNat_tail (n : Nat) : (UInt8.ofNat (0x80 + n % 64)).toNat = 0x80 + n % 64 :=
  toNat_ofNat (by omega)

/-! ## Leading bytes -/

section

variable {n : Nat} (rest : List UInt8)

theorem utf8Pieces_lead_two (above : 2 ≤ n) (below : n < 0x20) :
    utf8PiecesFrom .start (UInt8.ofNat (0xC0 + n) :: rest) =
      utf8PiecesFrom (.inside (UInt8.ofNat (0xC0 + n)) 1 n 1 0x80 0xBF) rest := by
  rw [utf8PiecesFrom, Utf8State.lead, toNat_ofNat (by omega), if_neg (by omega), if_neg (by omega),
    if_pos (by omega), Nat.add_sub_cancel_left]
  rfl

theorem utf8Pieces_lead_three (below : n < 0x10) :
    utf8PiecesFrom .start (UInt8.ofNat (0xE0 + n) :: rest) =
      utf8PiecesFrom (.inside (UInt8.ofNat (0xE0 + n)) 1 n 2 (if n = 0 then 0xA0 else 0x80)
        (if n = 0xD then 0x9F else 0xBF)) rest := by
  rw [utf8PiecesFrom, Utf8State.lead, toNat_ofNat (by omega), if_neg (by omega), if_neg (by omega),
    if_neg (by omega), if_pos (by omega), Nat.add_sub_cancel_left]
  simp only [Nat.add_eq_left, show 0xE0 + n = 0xED ↔ n = 0xD by omega]
  rfl

theorem utf8Pieces_lead_four (below : n < 5) :
    utf8PiecesFrom .start (UInt8.ofNat (0xF0 + n) :: rest) =
      utf8PiecesFrom (.inside (UInt8.ofNat (0xF0 + n)) 1 n 3 (if n = 0 then 0x90 else 0x80)
        (if n = 4 then 0x8F else 0xBF)) rest := by
  rw [utf8PiecesFrom, Utf8State.lead, toNat_ofNat (by omega), if_neg (by omega), if_neg (by omega),
    if_neg (by omega), if_neg (by omega), if_pos (by omega), Nat.add_sub_cancel_left]
  simp only [Nat.add_eq_left, show 0xF0 + n = 0xF4 ↔ n = 4 by omega]
  rfl

end

/-! ## Bytes that are owed -/

section

variable {first b : UInt8} {seen value owed low high : Nat} (rest : List UInt8)

/-- The last byte that is owed completes a character. -/
theorem utf8Pieces_last (fits : low ≤ b.toNat ∧ b.toNat ≤ high) :
    utf8PiecesFrom (.inside first seen value 1 low high) (b :: rest) =
      .char (Char.ofNat (64 * value + (b.toNat - 0x80))) :: utf8PiecesFrom .start rest := by
  rw [utf8PiecesFrom, if_pos fits]
  rfl

/-- A byte that is owed, with more to follow. -/
theorem utf8Pieces_more (fits : low ≤ b.toNat ∧ b.toNat ≤ high) :
    utf8PiecesFrom (.inside first seen value (owed + 2) low high) (b :: rest) =
      utf8PiecesFrom (.inside first (seen + 1) (64 * value + (b.toNat - 0x80)) (owed + 1) 0x80 0xBF)
        rest := by
  rw [utf8PiecesFrom, if_pos fits]
  simp

end

/-! ## Texts -/

/-- The bytes of a character are read as that character. -/
theorem utf8Pieces_encodeChar (c : Char) (rest : List UInt8) :
    utf8PiecesFrom .start (encodeUtf8Char c ++ rest) = .char c :: utf8PiecesFrom .start rest := by
  have valid := toNat_valid c
  have tail (k : Nat) := toNat_tail (c.toNat / 64 ^ k)
  have six (k : Nat) : 0x80 ≤ (UInt8.ofNat (0x80 + c.toNat / 64 ^ k % 64)).toNat ∧
      (UInt8.ofNat (0x80 + c.toNat / 64 ^ k % 64)).toNat ≤ 0xBF := by
    rw [tail]
    omega
  unfold encodeUtf8Char
  dsimp only [Nat.pow_eq]
  simp only [apply_ite (· ++ rest), List.cons_append, List.nil_append]
  split
  · rename_i one
    rw [utf8PiecesFrom, Utf8State.lead, toNat_ofNat (by omega), if_pos one, Char.ofNat_toNat]
    rfl
  · split
    · have whole : 64 * (c.toNat / 64) + (0x80 + c.toNat / 64 ^ 0 % 64 - 0x80) = c.toNat := by omega
      rw [utf8Pieces_lead_two _ (by omega) (by omega), utf8Pieces_last _ (six 0), tail, whole,
        Char.ofNat_toNat]
    · split
      · have whole : 64 * (64 * (c.toNat / 4096) + (0x80 + c.toNat / 64 ^ 1 % 64 - 0x80)) +
            (0x80 + c.toNat / 64 ^ 0 % 64 - 0x80) = c.toNat := by omega
        -- the first byte that is owed rules out long forms and surrogates
        have second : (if c.toNat / 4096 = 0 then 0xA0 else 0x80) ≤
              (UInt8.ofNat (0x80 + c.toNat / 64 ^ 1 % 64)).toNat ∧
            (UInt8.ofNat (0x80 + c.toNat / 64 ^ 1 % 64)).toNat ≤
              (if c.toNat / 4096 = 0xD then 0x9F else 0xBF) := by
          rw [tail]
          split <;> split <;> omega
        rw [utf8Pieces_lead_three _ (by omega), utf8Pieces_more _ second, utf8Pieces_last _ (six 0), tail,
          tail, whole, Char.ofNat_toNat]
      · have whole : 64 * (64 * (64 * (c.toNat / 262144) + (0x80 + c.toNat / 64 ^ 2 % 64 - 0x80)) +
            (0x80 + c.toNat / 64 ^ 1 % 64 - 0x80)) + (0x80 + c.toNat / 64 ^ 0 % 64 - 0x80) =
              c.toNat := by omega
        -- and here long forms and what lies above the last character
        have second : (if c.toNat / 262144 = 0 then 0x90 else 0x80) ≤
              (UInt8.ofNat (0x80 + c.toNat / 64 ^ 2 % 64)).toNat ∧
            (UInt8.ofNat (0x80 + c.toNat / 64 ^ 2 % 64)).toNat ≤
              (if c.toNat / 262144 = 4 then 0x8F else 0xBF) := by
          rw [tail]
          split <;> split <;> omega
        rw [utf8Pieces_lead_four _ (by omega), utf8Pieces_more _ second, utf8Pieces_more _ (six 1),
          utf8Pieces_last _ (six 0), tail, tail, tail, whole, Char.ofNat_toNat]

theorem utf8Pieces_encode (chars : List Char) :
    utf8Pieces (encodeUtf8 chars) = chars.map .char := by
  unfold utf8Pieces encodeUtf8
  induction chars with
  | nil => rfl
  | cons c rest ih => rw [List.flatMap_cons, utf8Pieces_encodeChar, ih, List.map_cons]

theorem joinPieces_char (position : Nat) (chars : List Char) :
    joinPieces position (chars.map .char) = .ok chars := by
  induction chars generalizing position with
  | nil => rfl
  | cons c rest ih => rw [List.map_cons, joinPieces, ih, Except.map]

/-- What was encoded is decoded to itself. -/
theorem readUtf8_encodeUtf8 (chars : List Char) : readUtf8 (encodeUtf8 chars) = .ok chars := by
  rw [readUtf8, utf8Pieces_encode, joinPieces_char]

/-- A text without carriage returns has the line ends that it has. -/
theorem unifyNewlines_of_notMem {chars : List Char} (clean : '\r' ∉ chars) :
    unifyNewlines chars = chars := by
  induction chars with
  | nil => rfl
  | cons c rest ih =>
    rw [List.mem_cons, not_or] at clean
    rw [unifyNewlines, ih clean.2]
    · exact fun _ same => absurd same.symm clean.1
    · exact fun same => absurd same.symm clean.1

end ModuleSystem.Text
