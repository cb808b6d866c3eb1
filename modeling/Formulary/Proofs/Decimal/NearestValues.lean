import Formulary.Proofs.Binary64.CorrectRounding
import Formulary.Proofs.Decimal.SameNumber

/-! The number which a decimal is. It rounds to the binary64 value which is taken for the
decimal, also where the decimal is so large or so small that no power of ten is formed for it.
-/

namespace Formulary.Decimal

open Binary64 (infinity ticks ticksPerUnit IsNearest RoundsTo)

/-- The number which the decimal is. -/
def value (decimal : Decimal) : ℚ :=
  decimal.coefficient * 10 ^ decimal.exponent

variable {decimal : Decimal}

theorem value_nonneg (decimal : Decimal) : 0 ≤ decimal.value :=
  mul_nonneg (Nat.cast_nonneg _) (zpow_nonneg (by norm_num) _)

/-- A power of ten which an exponent of the decimal is part of. -/
theorem pow_mul_zpow (count : Nat) (exponent : Int)
    : ((10 ^ count : Nat) : ℚ) * 10 ^ exponent = 10 ^ (count + exponent : Int) := by
  rw [zpow_add₀ (by norm_num), zpow_natCast, Nat.cast_pow]
  rfl

/-- The order is above the number. -/
theorem value_lt (decimal : Decimal) : decimal.value < 10 ^ decimal.order := by
  have digits : 0 < decimal.digits.length := List.length_pos_iff.mpr Nat.toDigits_ne_nil
  have below : decimal.coefficient < 10 ^ decimal.digits.length :=
    (Nat.length_toDigits_le_iff (by decide) digits).mp (Nat.le_refl _)
  rw [order, ← pow_mul_zpow, value]
  exact mul_lt_mul_of_pos_right (Nat.cast_lt.mpr below) (zpow_pos (by norm_num) _)

/-- The power of ten before the order is not above the number. -/
theorem le_value (positive : 0 < decimal.coefficient)
    : 10 ^ (decimal.order - 1) ≤ decimal.value := by
  have digits : 0 < decimal.digits.length := List.length_pos_iff.mpr Nat.toDigits_ne_nil
  have above : 10 ^ (decimal.digits.length - 1) ≤ decimal.coefficient := by
    by_contra below
    rcases Nat.eq_zero_or_pos (decimal.digits.length - 1) with single | several
    · rw [single] at below
      omega
    · have shorter : decimal.digits.length ≤ decimal.digits.length - 1 :=
        (Nat.length_toDigits_le_iff (by decide) several).mpr (Nat.not_le.mp below)
      omega
  have split
      : decimal.order - 1 = ((decimal.digits.length - 1 : Nat) : Int) + decimal.exponent := by
    rw [order]
    omega
  rw [split, ← pow_mul_zpow, value]
  exact mul_le_mul_of_nonneg_right (Nat.cast_le.mpr above) (zpow_nonneg (by norm_num) _)

/-- The number in ticks as a fraction, its power of ten split in two. -/
theorem value_eq_div {up down : Nat} (split : decimal.exponent = up - down)
    : decimal.value * ticksPerUnit
      = (decimal.coefficient * ticksPerUnit * 10 ^ up : Nat) / (10 ^ down : Nat) := by
  rw [value, split, zpow_sub₀ (by norm_num), zpow_natCast, zpow_natCast]
  push_cast
  ring

/-- Numbers of more than 310 digits are at least as large as the last magnitude. -/
theorem ticks_infinity_le (positive : 0 < decimal.coefficient) (high : 310 < decimal.order)
    : (ticks infinity : ℚ) ≤ decimal.value * ticksPerUnit := by
  have most : ticks infinity ≤ 10 ^ 310 * ticksPerUnit := by decide +kernel
  have most' : (ticks infinity : ℚ) ≤ 10 ^ (310 : Int) * ticksPerUnit := by
    rw [zpow_ofNat]
    exact_mod_cast most
  have grown : (10 : ℚ) ^ (310 : Int) ≤ 10 ^ (decimal.order - 1) :=
    zpow_le_zpow_right₀ (by norm_num) (by omega)
  exact most'.trans
    (mul_le_mul_of_nonneg_right (grown.trans (le_value positive)) Binary64.ticksPerUnit_pos.le)

/-- Numbers with more than 330 zeros behind the point are at most half a tick. -/
theorem two_mul_value_le (low : decimal.order < -330)
    : 2 * (decimal.value * ticksPerUnit) ≤ 1 := by
  have most : 2 * ticksPerUnit ≤ 10 ^ 331 := by decide +kernel
  have most' : (2 * ticksPerUnit : ℚ) ≤ 10 ^ (331 : Int) := by
    rw [zpow_ofNat]
    exact_mod_cast most
  have shrunk : (10 : ℚ) ^ decimal.order ≤ 10 ^ (-331 : Int) :=
    zpow_le_zpow_right₀ (by norm_num) (by omega)
  calc
    2 * (decimal.value * ticksPerUnit) = decimal.value * (2 * ticksPerUnit) := by ring
    _ ≤ 10 ^ (-331 : Int) * 10 ^ (331 : Int) :=
      mul_le_mul (decimal.value_lt.le.trans shrunk) most'
        (mul_nonneg two_pos.le Binary64.ticksPerUnit_pos.le) (zpow_nonneg (by norm_num) _)
    _ = 1 := by rw [← zpow_add₀ (by norm_num)]; rfl

/-- The index of a decimal is that of the magnitude nearest to its number. -/
theorem isNearest_index (decimal : Decimal)
    : IsNearest infinity (decimal.value * ticksPerUnit) decimal.index := by
  rcases Nat.eq_zero_or_pos decimal.coefficient with zero | positive
  · have none : decimal.value = 0 := by simp [value, zero]
    rw [index, if_pos zero, none, zero_mul]
    exact Binary64.isNearest_zero le_rfl (by simp)
  · rcases Int.lt_or_le 310 decimal.order with high | bounded
    · rw [index_of_lt_order positive high]
      exact Binary64.isNearest_last (ticks_infinity_le positive high)
    · rcases Int.lt_or_le decimal.order (-330) with low | within
      · rw [index_of_order_lt positive low]
        have nonneg := mul_nonneg decimal.value_nonneg Binary64.ticksPerUnit_pos.le
        exact Binary64.isNearest_zero nonneg (two_mul_value_le low)
      · have split : decimal.exponent = decimal.exponent.toNat - (-decimal.exponent).toNat := by
          omega
        rw [index_eq_nearest positive split bounded within, value_eq_div split]
        exact Binary64.isNearest_nearest _ (pow_ten_pos _)

/-- The number of a decimal rounds to the value which is taken for it. -/
theorem roundsTo_toFloat (decimal : Decimal) : RoundsTo decimal.value decimal.toFloat :=
  Binary64.roundsTo_of_isNearest decimal.value_nonneg decimal.isNearest_index

end Formulary.Decimal
