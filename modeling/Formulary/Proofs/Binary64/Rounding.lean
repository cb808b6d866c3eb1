import Mathlib
import Formulary.Binary64

/-! Rounding to the nearest magnitude. It depends on the quotient alone, not on how it is
written as a fraction, and a magnitude is nearest to itself.
-/

namespace Formulary.Binary64

theorem nearest_le_infinity (num den : Nat) : nearest num den ≤ infinity :=
  Nat.min_le_right _ _

/-- Cancelling a common factor changes nothing. -/
theorem nearest_mul_right {factor : Nat} (positive : 0 < factor) (num den : Nat)
    : nearest (num * factor) (den * factor) = nearest num den := by
  have quotient : num * factor / (den * factor) = num / den :=
    Nat.mul_div_mul_right num den positive
  unfold nearest
  simp only [quotient]
  generalize ticks (lastIndex (num / den)) + ticks (lastIndex (num / den) + 1) = both
  -- The comparison with the middle is that of the smaller fraction, times the factor.
  have below : 2 * (num * factor) < both * (den * factor) ↔ 2 * num < both * den := by
    rw [← Nat.mul_assoc, ← Nat.mul_assoc]
    exact Nat.mul_lt_mul_right positive
  have level : 2 * (num * factor) = both * (den * factor) ↔ 2 * num = both * den := by
    rw [← Nat.mul_assoc, ← Nat.mul_assoc]
    exact Nat.mul_left_inj (Nat.ne_of_gt positive)
  simp only [below, level]

theorem ticks_of_lt {index : Nat} (low : index < binade) : ticks index = index :=
  if_pos low

theorem ticks_normal (exponent : Nat) {fraction : Nat} (short : fraction < binade)
    : ticks ((exponent + 1) * binade + fraction) = (binade + fraction) * 2 ^ exponent := by
  have full : ¬(exponent + 1) * binade + fraction < binade := by
    rw [Nat.succ_mul]
    omega
  have remainder : ((exponent + 1) * binade + fraction) % binade = fraction := by
    rw [Nat.mul_comm, Nat.mul_add_mod, Nat.mod_eq_of_lt short]
  have quotient : ((exponent + 1) * binade + fraction) / binade = exponent + 1 := by
    rw [Nat.mul_comm, Nat.mul_add_div binade_pos, Nat.div_eq_of_lt short, Nat.add_zero]
  rw [ticks, if_neg full, remainder, quotient, Nat.add_sub_cancel, Nat.shiftLeft_eq]

/-- An index is a fraction alone, or one in a full binade. -/
theorem index_cases (index : Nat)
    : index < binade
      ∨ ∃ exponent fraction,
          fraction < binade ∧ index = (exponent + 1) * binade + fraction := by
  rcases Nat.lt_or_ge index binade with low | full
  · exact .inl low
  · have positive : 0 < index / binade := Nat.div_pos full binade_pos
    refine .inr ⟨index / binade - 1, index % binade, Nat.mod_lt _ binade_pos, ?_⟩
    rw [Nat.sub_add_cancel positive, Nat.mul_comm, Nat.div_add_mod]

/-- The magnitudes are numbered in ascending order. -/
theorem ticks_lt_succ (index : Nat) : ticks index < ticks (index + 1) := by
  rcases index_cases index with low | ⟨exponent, fraction, short, rfl⟩
  · rw [ticks_of_lt low]
    rcases Nat.lt_or_eq_of_le (Nat.succ_le_of_lt low) with next | last
    · rw [ticks_of_lt next]
      exact Nat.lt_succ_self index
    · have carry : index + 1 = (0 + 1) * binade + 0 := by omega
      rw [carry, ticks_normal 0 binade_pos, Nat.pow_zero]
      omega
  · have positive : 0 < 2 ^ exponent := Nat.two_pow_pos exponent
    rw [ticks_normal exponent short]
    rcases Nat.lt_or_eq_of_le (Nat.succ_le_of_lt short) with next | last
    · rw [Nat.add_assoc, ticks_normal exponent next]
      exact Nat.mul_lt_mul_of_pos_right (by omega) positive
    · -- The next index begins the next binade.
      have carry
          : (exponent + 1) * binade + fraction + 1 = (exponent + 1 + 1) * binade + 0 := by
        rw [Nat.succ_mul (exponent + 1)]
        omega
      rw [carry, ticks_normal (exponent + 1) binade_pos, Nat.pow_succ,
        Nat.mul_comm (2 ^ exponent), ← Nat.mul_assoc]
      exact Nat.mul_lt_mul_of_pos_right (by omega) positive

theorem ticks_pos {index : Nat} (positive : 0 < index) : 0 < ticks index := by
  obtain ⟨before, rfl⟩ := Nat.exists_eq_succ_of_ne_zero (Nat.ne_of_gt positive)
  exact Nat.lt_of_le_of_lt (Nat.zero_le _) (ticks_lt_succ before)

/-- Finite magnitudes have at most 2098 binary digits as ticks. -/
theorem ticks_lt {index digits : Nat} (finite : index < infinity) (many : 2098 ≤ digits)
    : ticks index < 2 ^ digits := by
  rcases index_cases index with low | ⟨exponent, fraction, short, rfl⟩
  · rw [ticks_of_lt low]
    have short : index < 2 ^ 52 := low
    exact Nat.lt_of_lt_of_le short (Nat.pow_le_pow_right (by decide) (by omega))
  · have top : exponent ≤ 2045 := by
      unfold infinity at finite
      have : (exponent + 1) * binade < 2047 * binade := by omega
      have := Nat.lt_of_mul_lt_mul_right this
      omega
    have mantissa : binade + fraction < 2 ^ 53 := by
      unfold binade at *
      omega
    calc
      ticks ((exponent + 1) * binade + fraction) = (binade + fraction) * 2 ^ exponent :=
        ticks_normal exponent short
      _ < 2 ^ 53 * 2 ^ exponent := Nat.mul_lt_mul_of_pos_right mantissa (Nat.two_pow_pos _)
      _ = 2 ^ (53 + exponent) := (Nat.pow_add 2 53 exponent).symm
      _ ≤ 2 ^ digits := Nat.pow_le_pow_right (by decide) (by omega)

/-- The last magnitude which is at most a magnitude is that magnitude. -/
theorem lastIndex_ticks (index : Nat) : lastIndex (ticks index) = index := by
  rcases index_cases index with low | ⟨exponent, fraction, short, rfl⟩
  · have shift : index.log2 - 52 = 0 := by
      rcases Nat.eq_zero_or_pos index with rfl | positive
      · rfl
      · have : index.log2 < 52 := (Nat.log2_lt (Nat.ne_of_gt positive)).mpr low
        omega
    simp [lastIndex, ticks_of_lt low, shift]
  · have positive : 0 < 2 ^ exponent := Nat.two_pow_pos exponent
    -- The mantissa has 53 digits, so the shift is the exponent.
    have logarithm : ((binade + fraction) * 2 ^ exponent).log2 = exponent + 52 := by
      have nonzero : (binade + fraction) * 2 ^ exponent ≠ 0 :=
        Nat.mul_ne_zero (by unfold binade; omega) (Nat.ne_of_gt positive)
      rw [Nat.log2_eq_iff nonzero, Nat.pow_add, Nat.mul_comm (2 ^ exponent)]
      constructor
      · exact Nat.mul_le_mul_right _ (Nat.le_add_right binade fraction)
      · have next : 2 ^ (exponent + 52 + 1) = (binade + binade) * 2 ^ exponent := by
          rw [Nat.add_assoc, Nat.pow_add, Nat.mul_comm]
          rfl
        rw [next]
        exact Nat.mul_lt_mul_of_pos_right (by omega) positive
    rw [ticks_normal exponent short, lastIndex]
    simp only [logarithm, Nat.add_sub_cancel]
    rw [Nat.shiftRight_eq_div_pow, Nat.mul_div_cancel _ positive, Nat.succ_mul]
    omega

/-- A magnitude is nearest to itself. -/
theorem nearest_ticks {index : Nat} (number : index ≤ infinity)
    : nearest (ticks index) 1 = index := by
  have above := ticks_lt_succ index
  have below : 2 * ticks index < (ticks index + ticks (index + 1)) * 1 := by omega
  unfold nearest
  simp only [Nat.div_one, lastIndex_ticks, below, true_or, if_true]
  exact Nat.min_eq_left number

end Formulary.Binary64
