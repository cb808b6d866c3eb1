import Formulary.Proofs.Decimal.ShortestDigits

/-! Whole numbers whose digits are written out. Below `2 ^ 53` no shorter decimal reads back as a
whole number, because what reads back is closer to it than one, and if it has digits behind the
point then there are as many digits before it.
-/

namespace Formulary.Decimal

open Binary64 (binade infinity ticks ticksPerUnit magnitude)

variable {decimal other : Decimal} {index whole : Nat}

/-- What reads back as a magnitude is not beyond the middles to both sides. -/
theorem between_of_index {before : Nat} (finite : before + 1 < infinity)
    (reads : decimal.index = before + 1)
    : (ticks before + ticks (before + 1) : ℚ) ≤ 2 * (decimal.value * ticksPerUnit)
      ∧ 2 * (decimal.value * ticksPerUnit)
        ≤ (ticks (before + 1) + ticks (before + 1 + 1) : ℚ) := by
  have nearest := decimal.isNearest_index
  rw [reads] at nearest
  exact ⟨(Binary64.distance_upper_le_iff (Nat.lt_succ_self before)).mp
      (nearest.closest before (Nat.le_of_succ_le finite.le)),
    (Binary64.distance_lower_le_iff (Nat.lt_succ_self (before + 1))).mp
      (nearest.closest (before + 1 + 1) finite)⟩

/-- In a full binade, what reads back is at most one part in `2 ^ 53` away. -/
theorem near_of_index (full : binade < index) (finite : index < infinity)
    (reads : decimal.index = index)
    : 2 ^ 53 * |decimal.value - magnitude index| ≤ magnitude index := by
  obtain ⟨before, rfl⟩ : ∃ before, index = before + 1 := ⟨index - 1, by omega⟩
  have unit := Binary64.ticksPerUnit_pos
  obtain ⟨low, high⟩ := between_of_index finite reads
  have gap : (2 ^ 52 * ticks (before + 1) : ℚ) ≤ (2 ^ 52 + 1) * ticks before := by
    exact_mod_cast Binary64.ticks_succ_le_of_full (Nat.le_of_lt_succ full)
  have gap' : (2 ^ 52 * ticks (before + 1 + 1) : ℚ) ≤ (2 ^ 52 + 1) * ticks (before + 1) := by
    exact_mod_cast Binary64.ticks_succ_le_of_full full.le
  have below : (ticks before : ℚ) ≤ ticks (before + 1) :=
    Nat.cast_le.mpr (Binary64.ticks_lt_succ before).le
  rw [← mul_le_mul_iff_left₀ unit, mul_assoc, ← abs_of_pos unit, ← abs_mul, abs_of_pos unit,
    sub_mul, Binary64.magnitude_mul_ticksPerUnit, ← abs_of_pos (show (0 : ℚ) < 2 ^ 53 by norm_num),
    ← abs_mul, abs_le]
  constructor <;> linarith

theorem value_whole (whole : Nat) : value ⟨whole, 0⟩ = whole := by
  simp [value]

/-- A whole number is a magnitude of a full binade. -/
theorem binade_lt_of_whole (positive : 0 < whole) (exact : magnitude index = whole)
    : binade < index := by
  have count : ticks index = whole * ticksPerUnit := by
    have scaled := Binary64.magnitude_mul_ticksPerUnit index
    rw [exact] at scaled
    exact_mod_cast scaled.symm
  have most : ticks binade < ticksPerUnit := by decide +kernel
  refine Binary64.ticks_strictMono.lt_iff_lt.mp (most.trans_le ?_)
  rw [count]
  exact Nat.le_mul_of_pos_left _ positive

/-- A decimal with digits behind the point which reads back as a whole number has at least as many
digits as that.
-/
theorem length_digits_of_fraction (positive : 0 < whole) (fraction : other.exponent < 0)
    (near : 2 ^ 53 * |other.value - whole| ≤ whole)
    : (Nat.toDigits 10 whole).length ≤ other.digits.length := by
  by_contra short
  have least : 10 ^ (order ⟨whole, 0⟩ - 1) ≤ value ⟨whole, 0⟩ := le_value positive
  have size : order ⟨whole, 0⟩ = (Nat.toDigits 10 whole).length := Int.add_zero _
  have low : other.order ≤ order ⟨whole, 0⟩ - 2 := by
    rw [size, order]
    omega
  have most : other.value < 10 ^ (order ⟨whole, 0⟩ - 2) :=
    other.value_lt.trans_le (zpow_le_zpow_right₀ (by norm_num) low)
  have power
      : (10 : ℚ) ^ (order ⟨whole, 0⟩ - 1) = ((10 ^ 1 : Nat) : ℚ) * 10 ^ (order ⟨whole, 0⟩ - 2) := by
    rw [pow_mul_zpow]
    congr 1
    omega
  have distance := neg_abs_le (other.value - whole)
  rw [power, value_whole] at least
  push_cast at least
  linarith

/-- A decimal without digits behind the point is a whole number, so it is the only one which is
closer than one.
-/
theorem value_eq_of_near (small : whole < 2 ^ 53) (integral : 0 ≤ other.exponent)
    (near : 2 ^ 53 * |other.value - whole| ≤ whole)
    : other.value = whole := by
  obtain ⟨power, split⟩ := Int.eq_ofNat_of_zero_le integral
  have number : other.value = (other.coefficient * 10 ^ power : Nat) := by
    rw [value, split, zpow_natCast, Nat.cast_mul, Nat.cast_pow, Nat.cast_ofNat]
  rw [number] at near ⊢
  generalize other.coefficient * 10 ^ power = multiple at near
  have small' : (whole : ℚ) < 2 ^ 53 := by exact_mod_cast small
  have close : (|(multiple - whole : Int)| : ℚ) < 1 := by
    push_cast
    linarith
  have apart : (multiple - whole : Int) = 0 := Int.abs_lt_one_iff.mp (by exact_mod_cast close)
  exact_mod_cast sub_eq_zero.mp apart

/-- The digits of a whole number below `2 ^ 53` without the zeros at their end are its shortest
decimal.
-/
theorem isShortest_whole (positive : 0 < whole) (small : whole < 2 ^ 53) (finite : index < infinity)
    (exact : magnitude index = whole)
    : IsShortest index (trim ⟨whole, 0⟩) := by
  have number : value (trim ⟨whole, 0⟩) = magnitude index := by
    rw [value_trim, exact, value_whole]
  refine ⟨index_of_value_eq finite.le number, fun other reads => ?_, fun other _ _ => ?_,
    fun other _ _ level => ?_⟩
  · have near := near_of_index (binade_lt_of_whole positive exact) finite reads
    rw [exact] at near
    rcases Int.lt_or_le other.exponent 0 with fraction | integral
    · have most : (trim ⟨whole, 0⟩).digits.length ≤ (Nat.toDigits 10 whole).length :=
        length_digits_trim_le positive rfl
      exact most.trans (length_digits_of_fraction positive fraction near)
    · have same : other.value = value ⟨whole, 0⟩ := by
        rw [value_eq_of_near small integral near, value_whole]
      exact length_digits_trim_le positive same
  · rw [number, sub_self, abs_zero]
    exact abs_nonneg _
  · rw [number, sub_self, abs_zero, abs_eq_zero, sub_eq_zero] at level
    exact (level.trans number.symm).le

end Formulary.Decimal
