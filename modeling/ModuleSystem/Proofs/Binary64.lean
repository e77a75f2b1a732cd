import Mathlib
import ModuleSystem.Decimal.Binary64

/-! # Powers of two as floating-point numbers

A power of two is a number of the 64-bit format as long as its exponent is small enough: its bits are an
exponent field with nothing around it. Beyond the largest number of the format a power of two becomes
infinite, and has no number. -/

namespace ModuleSystem.Decimal

open Float.Model.UnpackedFloat (pack unpack isNaNBits pack_unpack unpackExponent unpackMantissa
  unpackExponent_def unpackMantissa_def)

/-! ## Bits of an exponent field -/

/-- The bits of an exponent field with nothing around it. -/
def fieldBits (field : Nat) : UInt64 := UInt64.ofNat (field * powerOfTwo 52)

section

variable {field : Nat}

theorem toNat_fieldBits (small : field < 2048) : (fieldBits field).toBitVec.toNat = field * 2 ^ 52 :=
  UInt64.toNat_ofNat_of_lt' (by change field * 2 ^ 52 < 2 ^ 64; omega)

theorem unpackMantissa_fieldBits (small : field < 2048) :
    @unpackMantissa .binary64 (fieldBits field).toBitVec = 0#52 := by
  apply BitVec.eq_of_toNat_eq
  rw [unpackMantissa_def, BitVec.extractLsb'_toNat, toNat_fieldBits small]
  simp

theorem unpackExponent_fieldBits (small : field < 2048) :
    @unpackExponent .binary64 (fieldBits field).toBitVec = BitVec.ofNat 11 field := by
  apply BitVec.eq_of_toNat_eq
  rw [unpackExponent_def, BitVec.extractLsb'_toNat, toNat_fieldBits small, BitVec.toNat_ofNat,
    Nat.shiftRight_eq_div_pow]
  exact congrArg (· % 2 ^ 11) (Nat.mul_div_cancel field (Nat.two_pow_pos 52))

/-- The number that is read from the bits of an exponent field has just these bits. -/
theorem toBits_ofBits_fieldBits (small : field < 2048) :
    (Float.ofBits (fieldBits field)).toBits = fieldBits field := by
  have number : ¬ @isNaNBits .binary64 (fieldBits field).toBitVec = true := by
    simp [isNaNBits, unpackMantissa_fieldBits small]
  rw [← UInt64.toBitVec_inj]
  change pack .binary64 (unpack .binary64 (fieldBits field).toBitVec) = _
  rw [pack_unpack, if_neg number]

/-- The number of an exponent field is infinite just if the field is full. -/
theorem isInf_ofBits_fieldBits (small : field < 2048) :
    (Float.ofBits (fieldBits field)).isInf = decide (field = 2047) := by
  have full : BitVec.ofNat 11 field = -1#11 ↔ field = 2047 := by
    rw [← BitVec.toNat_inj, BitVec.toNat_ofNat, Nat.mod_eq_of_lt small]
    rfl
  change (unpack .binary64 (Float.ofBits (fieldBits field)).toBits.toBitVec).isInf = _
  rw [toBits_ofBits_fieldBits small]
  unfold unpack
  simp only [unpackExponent_fieldBits small, unpackMantissa_fieldBits small, full]
  by_cases same : field = 2047
  · simp [same, Float.Model.UnpackedFloat.isInf]
  · rw [if_neg same]
    split
    · simp [same, Float.Model.UnpackedFloat.isInf]
    · simp [same, Float.Model.UnpackedFloat.isInf]

end

/-! ## Rounding powers of two -/

namespace Binary64

theorem powerOfTwo_mul (m n : Nat) : powerOfTwo m * powerOfTwo n = powerOfTwo (m + n) :=
  (Nat.pow_add 2 m n).symm

theorem powerOfTwo_pos (n : Nat) : 0 < powerOfTwo n := Nat.two_pow_pos n

/-- A power of two divided by a lower one. -/
theorem floorScaled_powerOfTwo (k d : Nat) :
    floorScaled (powerOfTwo k) 1 ((k : Int) - d) = powerOfTwo d := by
  unfold floorScaled
  split
  · have sum : powerOfTwo k = powerOfTwo d * powerOfTwo ((k : Int) - d).toNat := by
      rw [powerOfTwo_mul]
      exact congrArg powerOfTwo (by omega)
    rw [Nat.one_mul, sum, Nat.mul_div_cancel _ (powerOfTwo_pos _)]
  · rw [powerOfTwo_mul, Nat.div_one]
    exact congrArg powerOfTwo (by omega)

theorem roundQuotient_of_dvd {num den : Nat} (positive : 0 < den) (exact : num % den = 0) :
    roundQuotient num den = num / den := by
  simp [roundQuotient, exact, positive]

theorem roundScaled_powerOfTwo (k d : Nat) :
    roundScaled (powerOfTwo k) 1 ((k : Int) - d) = powerOfTwo d := by
  have floor := floorScaled_powerOfTwo k d
  unfold floorScaled at floor
  unfold roundScaled
  split
  · rename_i above
    rw [if_pos above] at floor
    have sum : powerOfTwo k = powerOfTwo d * (1 * powerOfTwo ((k : Int) - d).toNat) := by
      rw [Nat.one_mul, powerOfTwo_mul]
      exact congrArg powerOfTwo (by omega)
    rw [roundQuotient_of_dvd (by rw [Nat.one_mul]; exact powerOfTwo_pos _)
      (by rw [sum]; exact Nat.mul_mod_left _ _), floor]
  · rename_i below
    rw [if_neg below] at floor
    rw [roundQuotient_of_dvd Nat.one_pos (Nat.mod_one _), floor]

theorem exponentOf_powerOfTwo (k : Nat) : exponentOf (powerOfTwo k) 1 = (k : Int) - 52 := by
  have size : (powerOfTwo k).log2 = k := Nat.log2_two_pow
  have whole := floorScaled_powerOfTwo k 53
  have guess : (k : Int) - ((Nat.log2 1 : Nat) : Int) - 53 = (k : Int) - (53 : Nat) := by
    rw [show Nat.log2 1 = 0 from rfl]
    omega
  unfold exponentOf
  simp only [size, guess, whole, Nat.lt_irrefl, if_false, leastExponent]
  omega

/-- The bits of a power of two. -/
theorem bitsOfRatio_powerOfTwo (k : Nat) :
    bitsOfRatio (powerOfTwo k) 1 = (if k < 1024 then k + 1023 else 2047) * powerOfTwo 52 := by
  have some_bits : powerOfTwo k ≠ 0 := Nat.ne_of_gt (powerOfTwo_pos k)
  have mantissa : roundScaled (powerOfTwo k) 1 ((k : Int) - 52) = powerOfTwo 52 :=
    roundScaled_powerOfTwo k 52
  have fits : powerOfTwo 52 ≠ powerOfTwo 53 := by decide
  unfold bitsOfRatio
  simp only [if_neg some_bits, exponentOf_powerOfTwo, mantissa, if_neg fits, Nat.lt_irrefl, if_false,
    Nat.sub_self, Nat.add_zero]
  by_cases small : k < 1024
  · rw [if_neg (by omega), if_pos small]
    exact congrArg (· * powerOfTwo 52) (by omega)
  · rw [if_pos (by omega), if_neg small]

end Binary64

/-! ## The numbers of powers of two -/

/-- The floating-point number that is a power of two. -/
def powerFloat (k : Nat) : Float := Float.ofBits (fieldBits (k + 1023))

theorem floatOfRatio_powerOfTwo (k : Nat) : Binary64.floatOfRatio false (powerOfTwo k) 1 =
    if k < 1024 then powerFloat k else Float.ofBits (fieldBits 2047) := by
  unfold Binary64.floatOfRatio powerFloat fieldBits
  simp only [Binary64.bitsOfRatio_powerOfTwo, Bool.false_eq_true, if_false, Nat.add_zero]
  by_cases small : k < 1024
  · simp only [small, if_true]
  · simp only [small, if_false]

/-- A power of two has a floating-point number just if its exponent is below 1024. -/
theorem floatOfInt?_powerOfTwo (k : Nat) :
    floatOfInt? (powerOfTwo k) = if k < 1024 then some (powerFloat k) else none := by
  have positive : decide (((powerOfTwo k : Nat) : Int) < 0) = false :=
    decide_eq_false (Int.not_lt.mpr (Int.natCast_nonneg _))
  unfold floatOfInt?
  simp only [positive, Int.natAbs_natCast, floatOfRatio_powerOfTwo]
  by_cases small : k < 1024
  · have finite : (powerFloat k).isInf = false := by
      rw [powerFloat, isInf_ofBits_fieldBits (by omega)]
      exact decide_eq_false (by omega)
    simp [small, finite]
  · have infinite : (Float.ofBits (fieldBits 2047)).isInf = true :=
      isInf_ofBits_fieldBits (by omega)
    simp [small, infinite]

end ModuleSystem.Decimal
