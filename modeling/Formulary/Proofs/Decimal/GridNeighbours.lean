import Formulary.Decimal.Shortest
import Formulary.Proofs.Decimal.NearestValues

/-! The two neighbours of a magnitude among the multiples of a power of ten. The index grows with
the number, so if any decimal of few digits reads back as the magnitude, then a neighbour of the
magnitude between the two does so as well.
-/

namespace Formulary

namespace Decimal

open Binary64 (infinity ticks ticksPerUnit magnitude)

variable {decimal other : Decimal} {index : Nat}

-----------------------------------------------------------------------------------------
-- Indices in the order of numbers
-----------------------------------------------------------------------------------------

/-- The index grows with the number. -/
theorem index_mono (ordered : decimal.value ≤ other.value) : decimal.index ≤ other.index :=
  decimal.isNearest_index.mono other.isNearest_index
    (mul_le_mul_of_nonneg_right ordered Binary64.ticksPerUnit_pos.le)

/-- A decimal for the number of a magnitude reads back as the magnitude. -/
theorem index_of_value_eq (within : index ≤ infinity) (same : decimal.value = magnitude index)
    : decimal.index = index := by
  have nearest := decimal.isNearest_index
  rw [same, Binary64.magnitude_mul_ticksPerUnit] at nearest
  exact nearest.unique (Binary64.isNearest_ticks within)

/-- What is not above a magnitude has no larger index. -/
theorem index_le (within : index ≤ infinity) (below : decimal.value ≤ magnitude index)
    : decimal.index ≤ index :=
  decimal.isNearest_index.mono (Binary64.isNearest_ticks within)
    ((le_div_iff₀ Binary64.ticksPerUnit_pos).mp below)

/-- What is not below a magnitude has no smaller index. -/
theorem le_index (within : index ≤ infinity) (above : magnitude index ≤ decimal.value)
    : index ≤ decimal.index :=
  (Binary64.isNearest_ticks within).mono decimal.isNearest_index
    ((div_le_iff₀ Binary64.ticksPerUnit_pos).mp above)

-----------------------------------------------------------------------------------------
-- Neighbours on a grid
-----------------------------------------------------------------------------------------

/-- The last multiple of the power of ten which is not above the magnitude. -/
def below (index : Nat) (exponent : Int) : Decimal :=
  { coefficient := (scaled (ticks index) exponent).1 / (scaled (ticks index) exponent).2
    exponent := exponent }

/-- The first multiple of the power of ten which is above the magnitude. -/
def above (index : Nat) (exponent : Int) : Decimal :=
  { coefficient := (below index exponent).coefficient + 1, exponent := exponent }

theorem power_pos (exponent : Int) : (0 : ℚ) < 10 ^ exponent :=
  zpow_pos (by norm_num) exponent

theorem scaled_den_pos (count : Nat) (exponent : Int) : 0 < (scaled count exponent).2 := by
  have unit : 0 < ticksPerUnit := by decide +kernel
  unfold scaled
  split
  · exact Nat.mul_pos unit (pow_ten_pos _)
  · exact unit

/-- The fraction times the power of ten is the number of ticks. -/
theorem scaled_mul_power (count : Nat) (exponent : Int)
    : ((scaled count exponent).1 / (scaled count exponent).2 : ℚ) * 10 ^ exponent
      = count / ticksPerUnit := by
  have unit := Binary64.ticksPerUnit_pos.ne'
  unfold scaled
  split
  · rename_i upward
    obtain ⟨power, rfl⟩ := Int.eq_ofNat_of_zero_le upward
    simp only [Int.toNat_natCast, zpow_natCast, Nat.pow_eq, Nat.cast_mul, Nat.cast_pow,
      Nat.cast_ofNat]
    field_simp
  · rename_i downward
    obtain ⟨power, rfl⟩ : ∃ power : Nat, exponent = -power := ⟨(-exponent).toNat, by omega⟩
    simp only [neg_neg, Int.toNat_natCast, zpow_neg, zpow_natCast, Nat.pow_eq, Nat.cast_mul,
      Nat.cast_pow, Nat.cast_ofNat]
    field_simp

/-- A multiple of the power of ten is not above the magnitude exactly if it is not above the
lower neighbour.
-/
theorem le_below_iff (index multiple : Nat) (exponent : Int)
    : multiple ≤ (below index exponent).coefficient
      ↔ (multiple : ℚ) * 10 ^ exponent ≤ magnitude index := by
  have positive := scaled_den_pos (ticks index) exponent
  have positive' : (0 : ℚ) < (scaled (ticks index) exponent).2 := Nat.cast_pos.mpr positive
  rw [magnitude, ← scaled_mul_power, mul_le_mul_iff_left₀ (power_pos exponent),
    le_div_iff₀ positive', ← Nat.cast_mul, Nat.cast_le]
  exact Nat.le_div_iff_mul_le positive

theorem value_below_le (index : Nat) (exponent : Int)
    : (below index exponent).value ≤ magnitude index :=
  (le_below_iff index _ exponent).mp le_rfl

theorem lt_value_above (index : Nat) (exponent : Int)
    : magnitude index < (above index exponent).value := by
  have beyond := (le_below_iff index ((below index exponent).coefficient + 1) exponent).not.mp
    (Nat.not_succ_le_self _)
  exact not_le.mp beyond

theorem value_above (index : Nat) (exponent : Int)
    : (above index exponent).value = (below index exponent).value + 10 ^ exponent := by
  rw [value, value, above, Nat.cast_add, Nat.cast_one, add_mul, one_mul]
  rfl

/-- The least power of ten above a magnitude is that above its whole part on a grid which is fine
enough for any magnitude.
-/
theorem orderOf_eq (index : Nat) : orderOf index = (below index (-330)).order := by
  rfl

/-- No magnitude is below the finest grid. -/
theorem coefficient_below_pos (positive : 0 < index) : 0 < (below index (-330)).coefficient := by
  have tick : (1 : ℚ) ≤ ticks index := by exact_mod_cast Binary64.ticks_pos positive
  have small : ticksPerUnit ≤ 10 ^ 330 := by decide +kernel
  have small' : (ticksPerUnit : ℚ) ≤ 10 ^ (330 : Int) := by
    rw [zpow_ofNat]
    exact_mod_cast small
  refine (le_below_iff index 1 (-330)).mpr ?_
  rw [magnitude, le_div_iff₀ Binary64.ticksPerUnit_pos, Nat.cast_one, one_mul, zpow_neg]
  refine le_trans ?_ tick
  rw [inv_mul_le_iff₀ (power_pos 330), mul_one]
  exact small'

/-- A magnitude is between two powers of ten, the lower one included. -/
theorem power_le_magnitude (positive : 0 < index)
    : (10 : ℚ) ^ (orderOf index - 1) ≤ magnitude index := by
  rw [orderOf_eq]
  exact (le_value (coefficient_below_pos positive)).trans (value_below_le index _)

theorem magnitude_lt_power (index : Nat) : magnitude index < 10 ^ orderOf index := by
  have digits : 0 < (below index (-330)).digits.length :=
    List.length_pos_iff.mpr Nat.toDigits_ne_nil
  have short : (below index (-330)).coefficient < 10 ^ (below index (-330)).digits.length :=
    (Nat.length_toDigits_le_iff (by decide) digits).mp le_rfl
  refine (lt_value_above index (-330)).trans_le ?_
  rw [orderOf_eq, order, ← pow_mul_zpow]
  exact mul_le_mul_of_nonneg_right (Nat.cast_le.mpr short) (power_pos _).le

/-- No decimal of at most so many digits is between two neighbours on the grid of that many
digits.
-/
theorem le_below_or_above_le {more : Nat} (positive : 0 < index)
    (few : other.digits.length ≤ more + 1)
    : other.value ≤ (below index (orderOf index - (more + 1))).value
      ∨ (above index (orderOf index - (more + 1))).value ≤ other.value := by
  generalize grid : orderOf index - (more + 1) = exponent
  rcases Int.lt_or_le other.exponent exponent with finer | coarser
  · -- Then it is below the power of ten under the magnitude, which is on the grid.
    left
    have low : other.order ≤ more + exponent := by
      rw [order]
      omega
    have power : ((10 ^ more : Nat) : ℚ) * 10 ^ exponent ≤ magnitude index := by
      rw [pow_mul_zpow, show (more + exponent : Int) = orderOf index - 1 by omega]
      exact power_le_magnitude positive
    have onGrid := (le_below_iff index _ exponent).mpr power
    calc
      other.value ≤ 10 ^ other.order := other.value_lt.le
      _ ≤ 10 ^ (more + exponent : Int) := zpow_le_zpow_right₀ (by norm_num) low
      _ = ((10 ^ more : Nat) : ℚ) * 10 ^ exponent := (pow_mul_zpow more exponent).symm
      _ ≤ (below index exponent).value :=
        mul_le_mul_of_nonneg_right (Nat.cast_le.mpr onGrid) (power_pos exponent).le
  · -- Then it is on the grid itself.
    obtain ⟨count, split⟩ := Int.le.dest coarser
    have multiple : other.value = ((other.coefficient * 10 ^ count : Nat) : ℚ) * 10 ^ exponent := by
      rw [Nat.cast_mul, mul_assoc, pow_mul_zpow, value, ← split, add_comm]
    rw [multiple]
    rcases Nat.lt_or_ge (below index exponent).coefficient (other.coefficient * 10 ^ count)
      with beyond | within
    · exact .inr (mul_le_mul_of_nonneg_right (Nat.cast_le.mpr beyond) (power_pos exponent).le)
    · exact .inl (mul_le_mul_of_nonneg_right (Nat.cast_le.mpr within) (power_pos exponent).le)

/-- If a decimal of at most so many digits reads back as a magnitude, then so does the neighbour
between the two on the grid of that many digits.
-/
theorem index_of_neighbour {more : Nat} (positive : 0 < index) (finite : index < infinity)
    (few : other.digits.length ≤ more + 1) (reads : other.index = index)
    : let lower := below index (orderOf index - (more + 1))
      let upper := above index (orderOf index - (more + 1))
      (other.value ≤ lower.value ∧ lower.index = index)
      ∨ (upper.value ≤ other.value ∧ upper.index = index) := by
  intro lower upper
  rcases le_below_or_above_le positive few with low | high
  · have most : lower.index ≤ index := index_le finite.le (value_below_le index _)
    have least : other.index ≤ lower.index := index_mono low
    exact .inl ⟨low, Nat.le_antisymm most (reads ▸ least)⟩
  · have least : index ≤ upper.index := le_index finite.le (lt_value_above index _).le
    have most : upper.index ≤ other.index := index_mono high
    exact .inr ⟨high, Nat.le_antisymm (reads ▸ most) least⟩

end Decimal

end Formulary
