import Formulary.Decimal.Shortest
import Formulary.Proofs.Binary64.Rounding

/-! Different decimals for one number. The index depends on the number alone, so zeros at
the end of a coefficient do not matter, and the shortest decimal for a magnitude reads back
as that magnitude.
-/

namespace Formulary.Decimal

theorem index_le_infinity (decimal : Decimal) : decimal.index ≤ Binary64.infinity := by
  unfold index
  split
  · exact Nat.zero_le _
  · split
    · exact Nat.le_refl _
    · split
      · exact Nat.zero_le _
      · split <;> exact Binary64.nearest_le_infinity _ _

theorem pow_ten_pos (count : Nat) : 0 < 10 ^ count :=
  Nat.pow_pos (by decide)

/-- The same number with so many more zeros at the end of its coefficient. -/
def spread (decimal : Decimal) (count : Nat) : Decimal :=
  { coefficient := decimal.coefficient * 10 ^ count, exponent := decimal.exponent - count }

/-- The zeros of a power of ten stand behind the digits. -/
theorem toDigits_mul_pow {coefficient : Nat} (positive : 0 < coefficient) (count : Nat)
    : Nat.toDigits 10 (coefficient * 10 ^ count)
      = Nat.toDigits 10 coefficient ++ List.replicate count '0' := by
  induction count with
  | zero => simp
  | succ count ih =>
      have nonzero : 0 < coefficient * 10 ^ count := Nat.mul_pos positive (pow_ten_pos count)
      have last : coefficient * 10 ^ (count + 1) = 10 * (coefficient * 10 ^ count) + 0 := by
        rw [Nat.pow_succ, ← Nat.mul_assoc, Nat.mul_comm, Nat.add_zero]
      rw [last, ← Nat.toDigits_append_toDigits (by decide) nonzero (by decide), ih,
        Nat.toDigits_zero, List.append_assoc, ← List.replicate_succ']

theorem length_toDigits_mul_pow {coefficient : Nat} (positive : 0 < coefficient) (count : Nat)
    : (Nat.toDigits 10 (coefficient * 10 ^ count)).length
      = (Nat.toDigits 10 coefficient).length + count := by
  rw [toDigits_mul_pow positive, List.length_append, List.length_replicate]

theorem order_spread {decimal : Decimal} (positive : 0 < decimal.coefficient) (count : Nat)
    : (decimal.spread count).order = decimal.order := by
  simp only [order, digits, spread, length_toDigits_mul_pow positive]
  omega

theorem index_of_lt_order {decimal : Decimal} (positive : 0 < decimal.coefficient)
    (high : 310 < decimal.order)
    : decimal.index = Binary64.infinity := by
  rw [index, if_neg (Nat.ne_of_gt positive), if_pos high]

theorem index_of_order_lt {decimal : Decimal} (positive : 0 < decimal.coefficient)
    (low : decimal.order < -330)
    : decimal.index = 0 := by
  rw [index, if_neg (Nat.ne_of_gt positive), if_neg (by omega), if_pos low]

/-- Within the range where powers are formed, the index is that of the number as a
fraction, however its power of ten is split.
-/
theorem index_eq_nearest {decimal : Decimal} {up down : Nat}
    (positive : 0 < decimal.coefficient) (split : decimal.exponent = up - down)
    (bounded : decimal.order ≤ 310) (within : -330 ≤ decimal.order)
    : decimal.index
      = Binary64.nearest (decimal.coefficient * Binary64.ticksPerUnit * 10 ^ up) (10 ^ down) := by
  rw [index, if_neg (Nat.ne_of_gt positive), if_neg (Int.not_lt.mpr bounded),
    if_neg (Int.not_lt.mpr within)]
  simp only [Nat.pow_eq]
  rcases Nat.le_total down up with upward | downward
  · -- The power below is a factor of the one above.
    obtain ⟨rest, rfl⟩ := Nat.exists_eq_add_of_le upward
    have power : decimal.exponent.toNat = rest := by omega
    rw [if_pos (by omega), power, Nat.pow_add, Nat.mul_comm (10 ^ down), ← Nat.mul_assoc,
      ← Binary64.nearest_mul_right (pow_ten_pos down) _ 1, Nat.one_mul]
  · obtain ⟨rest, rfl⟩ := Nat.exists_eq_add_of_le downward
    rcases Nat.eq_zero_or_pos rest with rfl | strict
    · have power : decimal.exponent.toNat = 0 := by omega
      rw [if_pos (by omega), power, Nat.pow_zero, Nat.mul_one,
        ← Binary64.nearest_mul_right (pow_ten_pos up) _ 1, Nat.one_mul, Nat.add_zero]
    · have power : (-decimal.exponent).toNat = rest := by omega
      rw [if_neg (by omega), power, Nat.pow_add, Nat.mul_comm (10 ^ up),
        Binary64.nearest_mul_right (pow_ten_pos up)]

/-- More zeros at the end leave the index as it is. -/
theorem index_spread (decimal : Decimal) (count : Nat)
    : (decimal.spread count).index = decimal.index := by
  rcases Nat.eq_zero_or_pos decimal.coefficient with zero | positive
  · simp [index, spread, zero]
  · -- Both have one order, so they are looked at in the same way.
    have order := order_spread positive count
    have positive' : 0 < (decimal.spread count).coefficient :=
      Nat.mul_pos positive (pow_ten_pos count)
    rcases Int.lt_or_le 310 decimal.order with high | bounded
    · rw [index_of_lt_order positive high, index_of_lt_order positive' (order.symm ▸ high)]
    · rcases Int.lt_or_le decimal.order (-330) with low | within
      · rw [index_of_order_lt positive low, index_of_order_lt positive' (order.symm ▸ low)]
      · have split : decimal.exponent = decimal.exponent.toNat - (-decimal.exponent).toNat := by
          omega
        have split'
            : (decimal.spread count).exponent
              = decimal.exponent.toNat - ((-decimal.exponent).toNat + count : Nat) := by
          simp only [spread]
          omega
        rw [index_eq_nearest positive split bounded within,
          index_eq_nearest positive' split' (order.symm ▸ bounded) (order.symm ▸ within),
          spread, Nat.mul_right_comm decimal.coefficient, Nat.mul_right_comm _ (10 ^ count),
          Nat.pow_add, Binary64.nearest_mul_right (pow_ten_pos count)]

/-- A zero at the end of the coefficient may go into the power of ten. -/
theorem eq_spread_of_trailing_zero {decimal : Decimal} (zero : decimal.coefficient % 10 = 0)
    : decimal = spread ⟨decimal.coefficient / 10, decimal.exponent + 1⟩ 1 := by
  have digits : decimal.coefficient / 10 * 10 ^ 1 = decimal.coefficient := by omega
  have power : decimal.exponent + 1 - (1 : Nat) = decimal.exponent := by omega
  rw [spread, digits, power]

/-- Without its trailing zeros a decimal has the same index. -/
theorem index_trim (decimal : Decimal) : decimal.trim.index = decimal.index := by
  fun_induction trim decimal with
  | case1 decimal zeros ih => rw [ih, ← index_spread _ 1, ← eq_spread_of_trailing_zero zeros.2]
  | case2 => rfl

theorem index_of_neighbour? {tie : Tie} {index : Nat} {exponent : Int} {decimal : Decimal}
    (found : neighbour? tie index exponent = some decimal)
    : decimal.index = index := by
  unfold neighbour? at found
  simp only at found
  -- Whichever neighbour is taken, it was asked for its index.
  split at found
  · rename_i lower
    split at found
    · rename_i upper
      split at found
      · cases found
        exact lower
      · cases found
        exact upper
    · cases found
      exact lower
  · split at found
    · rename_i upper
      cases found
      exact upper
    · cases found

/-- A coefficient has so many digits where the power of ten is above it. -/
theorem length_digits_le_iff {decimal : Decimal} {count : Nat} (positive : 0 < count)
    : decimal.digits.length ≤ count ↔ decimal.coefficient < 10 ^ count :=
  Nat.length_toDigits_le_iff (by decide) positive

/-- All digits of a magnitude are its ticks in units of the last one. -/
theorem coefficient_allDigits (index : Nat)
    : (allDigits index).coefficient = Binary64.ticks index * 5 ^ 1074 := by
  unfold allDigits
  -- The power is the same whatever its exponent, which must not be evaluated.
  generalize 1074 = count
  rfl

/-- All digits of a magnitude are those of the magnitude. -/
theorem index_allDigits {index : Nat} (positive : 0 < index) (finite : index < Binary64.infinity)
    : (allDigits index).index = index := by
  have ticks := Binary64.ticks_pos positive
  have fives (count : Nat) : 0 < 5 ^ count := Nat.pow_pos (by decide)
  have tens (count : Nat) : 5 ^ count * 1 <<< count = 10 ^ count := by
    rw [Nat.one_shiftLeft]
    exact (Nat.mul_pow 5 2 count).symm
  have coefficient : 0 < (allDigits index).coefficient := by
    rw [coefficient_allDigits]
    exact Nat.mul_pos ticks (fives 1074)
  -- Its order is within the range, so its index is that of a fraction in lowest ticks.
  have high : (allDigits index).digits.length ≤ 1384 := by
    rw [length_digits_le_iff (by decide), coefficient_allDigits]
    calc
      Binary64.ticks index * 5 ^ 1074 < 2 ^ 2098 * 5 ^ 1074 :=
        Nat.mul_lt_mul_of_pos_right (Binary64.ticks_lt finite (Nat.le_refl 2098)) (fives 1074)
      _ < 10 ^ 1384 := by decide +kernel
  have low : ¬(allDigits index).digits.length ≤ 743 := by
    intro short
    rw [length_digits_le_iff (by decide), coefficient_allDigits] at short
    have above : 10 ^ 743 ≤ 5 ^ 1074 := by decide +kernel
    have least (count : Nat) : 5 ^ count ≤ Binary64.ticks index * 5 ^ count :=
      Nat.le_mul_of_pos_left _ ticks
    exact Nat.not_lt_of_le (Nat.le_trans above (least 1074)) short
  have bounded : (allDigits index).order ≤ 310 := by
    simp only [order, allDigits] at *
    omega
  have within : -330 ≤ (allDigits index).order := by
    simp only [order, allDigits] at *
    omega
  have split : (allDigits index).exponent = (0 : Nat) - (1074 : Nat) := rfl
  have cancelled (count : Nat)
      : Binary64.nearest (Binary64.ticks index * 10 ^ count) (10 ^ count) = index := by
    have whole := Binary64.nearest_mul_right (pow_ten_pos count) (Binary64.ticks index) 1
    rwa [Nat.one_mul, Binary64.nearest_ticks (Nat.le_of_lt finite)] at whole
  rw [index_eq_nearest coefficient split bounded within, coefficient_allDigits, Nat.pow_zero,
    Nat.mul_one, Nat.mul_assoc, Binary64.ticksPerUnit, tens 1074]
  exact cancelled 1074

/-- The shortest decimal reads back as the magnitude. -/
theorem index_shortest (tie : Tie) {index : Nat} (positive : 0 < index)
    (finite : index < Binary64.infinity)
    : (shortest tie index).index = index := by
  rw [shortest, index_trim]
  cases hit : (List.range 17).findSome?
      fun (n : Nat) => neighbour? tie index (orderOf index - (n + 1)) with
  | none => exact index_allDigits positive finite
  | some decimal =>
      obtain ⟨count, _, found⟩ := List.exists_of_findSome?_eq_some hit
      exact index_of_neighbour? found

end Formulary.Decimal
