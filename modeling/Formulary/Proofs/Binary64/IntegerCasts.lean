import Formulary.Proofs.Binary64.CorrectRounding

/-! Values which are integers. Their ticks make whole units, and cutting them off behind the point
keeps them, since then only zeros are cut off.
-/

namespace Formulary.Binary64

open Float.Model (UnpackedFloat)
open Float.Model.UnpackedFloat (roundToInt ExtendedMantissa)

variable {x : Float} {n : Int}

/-- The value at an index is whole if its ticks make whole units. -/
theorem magnitude_eq_natCast_iff {index whole : Nat}
    : magnitude index = whole ↔ ticks index = whole * ticksPerUnit := by
  rw [magnitude, div_eq_iff ticksPerUnit_pos.ne']
  exact_mod_cast Iff.rfl

theorem number?_eq_natAbs {whole : Nat} (finite : index x < infinity)
    (exact : magnitude (index x) = whole)
    : number? x = some ((if isNegative x then -whole else whole : Int) : ℚ) := by
  rw [number?_eq finite, exact]
  cases isNegative x <;> simp

/-- A value which is an integer has its size. -/
theorem magnitude_eq_natAbs (exact : number? x = some (n : ℚ))
    : magnitude (index x) = n.natAbs := by
  rw [← abs_number? exact, Nat.cast_natAbs, Int.cast_abs]

/-- A value which is an integer has its sign. -/
theorem eq_signed_natAbs (exact : number? x = some (n : ℚ))
    : n = (if isNegative x then -n.natAbs else n.natAbs : Int) := by
  have signed := number?_eq_natAbs (finite_of_number? exact) (magnitude_eq_natAbs exact)
  rwa [exact, Option.some_inj, Int.cast_inj] at signed

/-- Halving the mantissa so many times cuts so many of its bits off. -/
theorem mantissa_shiftRight (extended : ExtendedMantissa) (count : Nat)
    : (extended >>> count).mantissa = extended.mantissa / 2 ^ count := by
  change (count.repeat ExtendedMantissa.shiftRightOne extended).mantissa = _
  induction count with
  | zero => rw [Nat.repeat, Nat.pow_zero, Nat.div_one]
  | succ count ih =>
      rw [Nat.repeat, ExtendedMantissa.shiftRightOne, ih, Nat.div_div_eq_div_mul, Nat.pow_succ]

/-- What is cut off behind the point is the remainder of a division by a power of two. -/
theorem roundToInt_eq (sign : UnpackedFloat.Sign) (mantissa : Nat) (exponent : Int)
    : roundToInt sign mantissa exponent
      = sign.apply ((mantissa * 2 ^ exponent.toNat / 2 ^ (-exponent).toNat : Nat)) := by
  have halvings : (0 - (exponent - exponent.toNat)).toNat = (-exponent).toNat := by omega
  simp only [roundToInt, UnpackedFloat.decreaseExponent, UnpackedFloat.shiftToExponent,
    mantissa_shiftRight, Nat.shiftLeft_eq, Int.sub_zero, halvings]
  rfl

/-- A whole number loses nothing behind the point. -/
theorem roundToInt_of_whole (sign : UnpackedFloat.Sign) {mantissa whole : Nat} {exponent : Int}
    (exact : (mantissa * 2 ^ exponent : ℚ) = whole)
    : roundToInt sign mantissa exponent = sign.apply whole := by
  have split : exponent = exponent.toNat - (-exponent).toNat := by omega
  have equal : mantissa * 2 ^ exponent.toNat = whole * 2 ^ (-exponent).toNat := by
    rw [split, zpow_sub₀ two_ne_zero, zpow_natCast, zpow_natCast, mul_div_assoc',
      div_eq_iff (pow_ne_zero _ two_ne_zero)] at exact
    exact_mod_cast exact
  rw [roundToInt_eq, equal, Nat.mul_div_cancel _ (Nat.two_pow_pos _)]

/-- An integer is kept when it is cut off behind the point. -/
theorem toInt_unpack (exact : number? x = some (n : ℚ)) (least most : Int)
    : UnpackedFloat.toInt least most (UnpackedFloat.unpack .binary64 x.toBits.toBitVec) = n := by
  rw [number?] at exact
  generalize UnpackedFloat.unpack .binary64 x.toBits.toBitVec = unpacked at exact ⊢
  cases unpacked with
  | notANumber | infinity => cases exact
  | zero sign => exact_mod_cast Option.some_inj.mp exact
  | finite sign mantissa exponent positive =>
      have nonneg : (0 : ℚ) ≤ mantissa * 2 ^ exponent := by positivity
      cases sign with
      | positive =>
          have equal : (mantissa * 2 ^ exponent : ℚ) = n := Option.some_inj.mp exact
          rw [equal] at nonneg
          obtain ⟨whole, rfl⟩ := Int.eq_ofNat_of_zero_le (Int.cast_nonneg_iff.mp nonneg)
          exact roundToInt_of_whole .positive equal
      | negative =>
          have equal : (mantissa * 2 ^ exponent : ℚ) = (-n : Int) := by
            rw [Int.cast_neg, ← Option.some_inj.mp exact, neg_neg]
          rw [equal] at nonneg
          obtain ⟨whole, opposite⟩ := Int.eq_ofNat_of_zero_le (Int.cast_nonneg_iff.mp nonneg)
          rw [opposite] at equal
          rw [← neg_neg n, opposite]
          exact roundToInt_of_whole .negative equal

/-- An integer within 64 bits is neither rounded nor clamped by the cast to 64 bits. -/
theorem toInt_toInt64 (exact : number? x = some (n : ℚ)) (low : -2 ^ 63 ≤ n) (high : n < 2 ^ 63)
    : x.toModel.toInt64.toInt = n := by
  change (Int64.ofIntClamp (UnpackedFloat.toInt _ _
    (UnpackedFloat.unpack .binary64 x.toBits.toBitVec))).toInt = n
  rw [toInt_unpack exact]
  exact Int64.toInt_ofIntClamp low (Int.le_of_lt_add_one high)

end Formulary.Binary64
