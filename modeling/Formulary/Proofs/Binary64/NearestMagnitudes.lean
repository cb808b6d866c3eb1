import Formulary.Proofs.Binary64.Rounding

/-! The magnitude which is nearest to a number. There is one only, since a tie between two
magnitudes goes to the even index. Rounding finds it among those of the finite values and the
one after them, which stands for infinity.
-/

namespace Formulary.Binary64

-----------------------------------------------------------------------------------------
-- The last magnitude which is not above
-----------------------------------------------------------------------------------------

/-- The magnitudes are numbered in ascending order. -/
theorem ticks_strictMono : StrictMono ticks :=
  strictMono_nat_of_lt_succ ticks_lt_succ

/-- A full mantissa is shifted by its exponent, also where it begins the next binade. -/
theorem ticks_mantissa (exponent : Nat) {mantissa : Nat} (full : binade ≤ mantissa)
    (atMost : mantissa ≤ 2 * binade)
    : ticks (exponent * binade + mantissa) = mantissa * 2 ^ exponent := by
  obtain ⟨fraction, rfl⟩ := Nat.exists_eq_add_of_le full
  rcases Nat.lt_or_ge fraction binade with short | long
  · have index
        : exponent * binade + (binade + fraction) = (exponent + 1) * binade + fraction := by
      rw [Nat.succ_mul, Nat.add_assoc]
    rw [index, ticks_normal exponent short]
  · obtain rfl : fraction = binade := by omega
    have index : exponent * binade + (binade + binade) = (exponent + 1 + 1) * binade + 0 := by
      rw [Nat.succ_mul, Nat.succ_mul]
      omega
    rw [index, ticks_normal (exponent + 1) binade_pos, Nat.pow_succ, Nat.add_zero]
    ring

/-- Below the first full mantissa a count of ticks is its own index. -/
theorem lastIndex_of_lt {count : Nat} (low : count < binade) : lastIndex count = count := by
  have shift : count.log2 - 52 = 0 := by
    rcases Nat.eq_zero_or_pos count with rfl | positive
    · rfl
    · have : count.log2 < 52 := (Nat.log2_lt (Nat.ne_of_gt positive)).mpr low
      omega
  simp [lastIndex, shift]

/-- From there on a count is cut to a full mantissa. -/
theorem exists_lastIndex_eq {count : Nat} (full : binade ≤ count)
    : ∃ exponent,
        lastIndex count = exponent * binade + count / 2 ^ exponent
        ∧ binade ≤ count / 2 ^ exponent
        ∧ count / 2 ^ exponent < 2 * binade := by
  have nonzero : count ≠ 0 := Nat.ne_of_gt (Nat.lt_of_lt_of_le binade_pos full)
  have long : 52 ≤ count.log2 := (Nat.le_log2 nonzero).mpr full
  obtain ⟨exponent, logarithm⟩ := Nat.exists_eq_add_of_le long
  obtain ⟨least, most⟩ := (Nat.log2_eq_iff nonzero).mp logarithm
  refine ⟨exponent, ?_, ?_, ?_⟩
  · rw [lastIndex, logarithm, Nat.add_sub_cancel_left, Nat.shiftRight_eq_div_pow]
  · rw [Nat.le_div_iff_mul_le (Nat.two_pow_pos exponent)]
    rwa [Nat.pow_add] at least
  · rw [Nat.div_lt_iff_lt_mul (Nat.two_pow_pos exponent)]
    have twice : 2 ^ (52 + exponent + 1) = 2 * 2 ^ 52 * 2 ^ exponent := by ring
    rwa [twice] at most

/-- A count of ticks is between the last magnitude which is not above it and the next. -/
theorem ticks_lastIndex (count : Nat)
    : ticks (lastIndex count) ≤ count ∧ count < ticks (lastIndex count + 1) := by
  rcases Nat.lt_or_ge count binade with low | full
  · have next := ticks_lt_succ count
    rw [ticks_of_lt low] at next
    rw [lastIndex_of_lt low, ticks_of_lt low]
    exact ⟨Nat.le_refl count, next⟩
  · obtain ⟨exponent, last, least, most⟩ := exists_lastIndex_eq full
    rw [last, ticks_mantissa exponent least (Nat.le_of_lt most), Nat.add_assoc,
      ticks_mantissa exponent (Nat.le_succ_of_le least) most]
    refine ⟨Nat.div_mul_le_self _ _, ?_⟩
    exact (Nat.div_lt_iff_lt_mul (Nat.two_pow_pos exponent)).mp (Nat.lt_succ_self _)

-----------------------------------------------------------------------------------------
-- Neighbouring magnitudes
-----------------------------------------------------------------------------------------

/-- Two neighbouring magnitudes are neighbouring mantissas at one power of two. -/
theorem exists_mantissa (index : Nat)
    : ∃ exponent mantissa,
        mantissa < 2 ^ 53
        ∧ (binade ≤ index → 2 ^ 52 ≤ mantissa)
        ∧ ticks index = mantissa * 2 ^ exponent
        ∧ ticks (index + 1) = (mantissa + 1) * 2 ^ exponent := by
  rcases index_cases index with low | ⟨exponent, fraction, short, rfl⟩
  · refine ⟨0, index, Nat.lt_trans low (by decide), fun full => absurd low (by omega), ?_, ?_⟩
    · rw [ticks_of_lt low, Nat.pow_zero, Nat.mul_one]
    · rcases Nat.lt_or_eq_of_le (Nat.succ_le_of_lt low) with next | last
      · rw [ticks_of_lt next, Nat.pow_zero, Nat.mul_one]
      · have carry := ticks_mantissa 0 (Nat.le_of_eq last.symm) (by omega)
        rwa [Nat.zero_mul, Nat.zero_add] at carry
  · have least : binade ≤ binade + fraction := Nat.le_add_right _ _
    have split : (exponent + 1) * binade + fraction = exponent * binade + (binade + fraction) := by
      rw [Nat.succ_mul, Nat.add_assoc]
    refine ⟨exponent, binade + fraction, ?_, fun _ => least, ?_, ?_⟩
    · unfold binade at *
      omega
    · rw [split, ticks_mantissa exponent least (by omega)]
    · rw [split, Nat.add_assoc, ticks_mantissa exponent (by omega) (by omega)]

/-- A magnitude is less than `2 ^ 53` times its distance from the one before. -/
theorem ticks_succ_le (index : Nat)
    : ticks (index + 1) + 2 ^ 53 * ticks index ≤ 2 ^ 53 * ticks (index + 1) := by
  obtain ⟨exponent, mantissa, short, -, here, next⟩ := exists_mantissa index
  rw [here, next]
  calc
    (mantissa + 1) * 2 ^ exponent + 2 ^ 53 * (mantissa * 2 ^ exponent)
      = (mantissa + 1 + 2 ^ 53 * mantissa) * 2 ^ exponent := by ring
    _ ≤ 2 ^ 53 * (mantissa + 1) * 2 ^ exponent := Nat.mul_le_mul_right _ (by omega)
    _ = 2 ^ 53 * ((mantissa + 1) * 2 ^ exponent) := Nat.mul_assoc _ _ _

/-- In a full binade, the next magnitude is at most one part in `2 ^ 52` away. -/
theorem ticks_succ_le_of_full {index : Nat} (full : binade ≤ index)
    : 2 ^ 52 * ticks (index + 1) ≤ (2 ^ 52 + 1) * ticks index := by
  obtain ⟨exponent, mantissa, -, long, here, next⟩ := exists_mantissa index
  have least := long full
  rw [here, next, ← Nat.mul_assoc, ← Nat.mul_assoc]
  exact Nat.mul_le_mul_right _ (by omega)

-----------------------------------------------------------------------------------------
-- Distances
-----------------------------------------------------------------------------------------

/-- How far the magnitude at an index is from a number, in ticks. -/
def distance (count : ℚ) (index : Nat) : ℚ :=
  |ticks index - count|

variable {count : ℚ} {last lower upper index other : Nat}

/-- Of two magnitudes the upper one is not farther exactly from their middle on. -/
theorem distance_upper_le_iff (ordered : lower < upper)
    : distance count upper ≤ distance count lower
      ↔ (ticks lower + ticks upper : ℚ) ≤ 2 * count := by
  have apart : (0 : ℚ) < ticks upper - ticks lower :=
    sub_pos.mpr (Nat.cast_lt.mpr (ticks_strictMono ordered))
  have squares
      : (ticks lower - count) ^ 2 - (ticks upper - count) ^ 2
        = (ticks upper - ticks lower) * (2 * count - (ticks lower + ticks upper)) := by
    ring
  rw [distance, distance, ← sq_le_sq, ← sub_nonneg, squares, mul_nonneg_iff_of_pos_left apart,
    sub_nonneg]

/-- Of two magnitudes the lower one is not farther exactly up to their middle. -/
theorem distance_lower_le_iff (ordered : lower < upper)
    : distance count lower ≤ distance count upper
      ↔ 2 * count ≤ (ticks lower + ticks upper : ℚ) := by
  have apart : (0 : ℚ) < ticks upper - ticks lower :=
    sub_pos.mpr (Nat.cast_lt.mpr (ticks_strictMono ordered))
  have squares
      : (ticks upper - count) ^ 2 - (ticks lower - count) ^ 2
        = (ticks upper - ticks lower) * (ticks lower + ticks upper - 2 * count) := by
    ring
  rw [distance, distance, ← sq_le_sq, ← sub_nonneg, squares, mul_nonneg_iff_of_pos_left apart,
    sub_nonneg]

/-- Two magnitudes are equally far from their middle only. -/
theorem two_mul_eq_of_distance_eq (ordered : lower < upper)
    (level : distance count lower = distance count upper)
    : 2 * count = ticks lower + ticks upper :=
  le_antisymm ((distance_lower_le_iff ordered).mp level.le)
    ((distance_upper_le_iff ordered).mp level.ge)

/-- Two magnitudes are not equally far from a number which is not between them. -/
theorem distance_lt_of_le (ordered : lower < upper) (above : ticks upper ≤ count)
    : distance count upper < distance count lower := by
  have below : (ticks lower : ℚ) < ticks upper := Nat.cast_lt.mpr (ticks_strictMono ordered)
  rw [← not_le, distance_lower_le_iff ordered]
  linarith

-----------------------------------------------------------------------------------------
-- Nearest magnitudes
-----------------------------------------------------------------------------------------

/-- Among the magnitudes up to the last one, none is nearer to the number of ticks than that
at the index. Where another is as near, the index is even.
-/
structure IsNearest (last : Nat) (count : ℚ) (index : Nat) : Prop where
  within : index ≤ last
  closest : ∀ other ≤ last, distance count index ≤ distance count other
  even
    : ∀ other ≤ last,
        other ≠ index → distance count other = distance count index → index % 2 = 0

/-- What is nearest among many is nearest among fewer. -/
theorem IsNearest.among {fewer : Nat} (nearest : IsNearest last count index)
    (smaller : fewer ≤ last) (within : index ≤ fewer)
    : IsNearest fewer count index where
  within := within
  closest other listed := nearest.closest other (Nat.le_trans listed smaller)
  even other listed := nearest.even other (Nat.le_trans listed smaller)

/-- There is one nearest magnitude only. Two of them would both have even indices, and those
between them would be nearer.
-/
theorem IsNearest.unique (first : IsNearest last count index)
    (second : IsNearest last count other)
    : index = other := by
  by_contra different
  wlog ordered : index < other generalizing index other
  · exact this second first (Ne.symm different)
      (Nat.lt_of_le_of_ne (Nat.not_lt.mp ordered) (Ne.symm different))
  have level : distance count index = distance count other :=
    le_antisymm (first.closest other second.within) (second.closest index first.within)
  have even := first.even other second.within (Ne.symm different) level.symm
  have even' := second.even index first.within different level
  have between : index + 1 < other := by omega
  have nearer := first.closest (index + 1) (Nat.le_trans between.le second.within)
  rw [distance_lower_le_iff (Nat.lt_succ_self index),
    two_mul_eq_of_distance_eq ordered level] at nearer
  have below : (ticks (index + 1) : ℚ) < ticks other :=
    Nat.cast_lt.mpr (ticks_strictMono between)
  linarith

/-- The nearest magnitude grows with the number. -/
theorem IsNearest.mono {count' : ℚ} {index' : Nat} (nearest : IsNearest last count index)
    (nearest' : IsNearest last count' index') (ordered : count ≤ count')
    : index ≤ index' := by
  by_contra crossed
  have crossed := Nat.not_le.mp crossed
  -- Both numbers would be in the middle, where there is one nearest magnitude only.
  have from_middle := (distance_upper_le_iff crossed).mp (nearest.closest _ nearest'.within)
  have to_middle := (distance_lower_le_iff crossed).mp (nearest'.closest _ nearest.within)
  obtain rfl : count = count' := by linarith
  exact absurd (nearest'.unique nearest) (Nat.ne_of_lt crossed)

/-- A magnitude is nearest to itself. -/
theorem isNearest_ticks (within : index ≤ last) : IsNearest last (ticks index) index where
  within := within
  closest other _ := by simp [distance]
  even other _ different level := by
    have same : (ticks other : ℚ) = ticks index := by
      simpa [distance, abs_eq_zero, sub_eq_zero] using level
    exact absurd (ticks_strictMono.injective (Nat.cast_inj.mp same)) different

section Neighbours

variable (below : count < ticks (lower + 1)) (within : lower + 1 ≤ last)
include below within

/-- Up to the middle the lower of two neighbours is nearest, and in the middle if it is even.
-/
theorem isNearest_lower (above : (ticks lower : ℚ) ≤ count)
    (near : 2 * count ≤ (ticks lower + ticks (lower + 1) : ℚ))
    (even : 2 * count = (ticks lower + ticks (lower + 1) : ℚ) → lower % 2 = 0)
    : IsNearest last count lower where
  within := Nat.le_of_succ_le within
  closest other _ := by
    rcases Nat.lt_trichotomy other lower with before | rfl | behind
    · exact (distance_lt_of_le before above).le
    · exact le_refl _
    · have least : (ticks (lower + 1) : ℚ) ≤ ticks other :=
        Nat.cast_le.mpr (ticks_strictMono.monotone behind)
      rw [distance_lower_le_iff behind]
      linarith
  even other _ different level := by
    rcases Nat.lt_or_gt_of_ne different with before | behind
    · exact absurd level (distance_lt_of_le before above).ne'
    · have least : (ticks (lower + 1) : ℚ) ≤ ticks other :=
        Nat.cast_le.mpr (ticks_strictMono.monotone behind)
      have middle := two_mul_eq_of_distance_eq behind level.symm
      exact even (by linarith)

/-- From the middle on the upper of two neighbours is nearest, and in the middle if it is even.
-/
theorem isNearest_upper (near : (ticks lower + ticks (lower + 1) : ℚ) ≤ 2 * count)
    (even : 2 * count = (ticks lower + ticks (lower + 1) : ℚ) → (lower + 1) % 2 = 0)
    : IsNearest last count (lower + 1) where
  within := within
  closest other _ := by
    rcases Nat.lt_trichotomy other (lower + 1) with before | rfl | behind
    · have most : (ticks other : ℚ) ≤ ticks lower :=
        Nat.cast_le.mpr (ticks_strictMono.monotone (Nat.le_of_lt_succ before))
      rw [distance_upper_le_iff before]
      linarith
    · exact le_refl _
    · have least : (ticks (lower + 1) : ℚ) < ticks other :=
        Nat.cast_lt.mpr (ticks_strictMono behind)
      rw [distance_lower_le_iff behind]
      linarith
  even other _ different level := by
    rcases Nat.lt_or_gt_of_ne different with before | behind
    · have most : (ticks other : ℚ) ≤ ticks lower :=
        Nat.cast_le.mpr (ticks_strictMono.monotone (Nat.le_of_lt_succ before))
      have middle := two_mul_eq_of_distance_eq before level
      exact even (by linarith)
    · have least : (ticks (lower + 1) : ℚ) < ticks other :=
        Nat.cast_lt.mpr (ticks_strictMono behind)
      have middle := two_mul_eq_of_distance_eq behind level.symm
      linarith

end Neighbours

/-- The last magnitude is nearest to what is not below it. -/
theorem isNearest_last (above : (ticks last : ℚ) ≤ count) : IsNearest last count last where
  within := Nat.le_refl _
  closest other within := by
    rcases Nat.lt_or_eq_of_le within with before | rfl
    · exact (distance_lt_of_le before above).le
    · exact le_refl _
  even other within different level :=
    absurd level (distance_lt_of_le (Nat.lt_of_le_of_ne within different) above).ne'

/-- Rounding a fraction finds the magnitude which is nearest to it. -/
theorem isNearest_nearest (num : Nat) {den : Nat} (positive : 0 < den)
    : IsNearest infinity (num / den) (nearest num den) := by
  have positive' : (0 : ℚ) < den := Nat.cast_pos.mpr positive
  obtain ⟨cut, next⟩ := ticks_lastIndex (num / den)
  rw [nearest]
  generalize lastIndex (num / den) = lower at *
  have above : (ticks lower : ℚ) ≤ num / den := by
    rw [le_div_iff₀ positive']
    exact_mod_cast (Nat.le_div_iff_mul_le positive).mp cut
  have below : (num / den : ℚ) < ticks (lower + 1) := by
    rw [div_lt_iff₀ positive']
    exact_mod_cast (Nat.div_lt_iff_lt_mul positive).mp next
  have middle_le
      : 2 * num ≤ (ticks lower + ticks (lower + 1)) * den
        ↔ 2 * (num / den : ℚ) ≤ ticks lower + ticks (lower + 1) := by
    rw [mul_div_assoc', div_le_iff₀ positive']
    exact_mod_cast Iff.rfl
  have le_middle
      : (ticks lower + ticks (lower + 1)) * den ≤ 2 * num
        ↔ (ticks lower + ticks (lower + 1) : ℚ) ≤ 2 * (num / den) := by
    rw [mul_div_assoc', le_div_iff₀ positive']
    exact_mod_cast Iff.rfl
  rcases Nat.lt_or_ge lower infinity with within | beyond
  · split
    · rename_i near
      rw [Nat.min_eq_left (Nat.le_of_lt within)]
      refine isNearest_lower below within above (middle_le.mp (by omega)) fun level => ?_
      have := le_middle.mpr level.ge
      omega
    · rename_i far
      rw [Nat.min_eq_left within]
      refine isNearest_upper below within (le_middle.mp (by omega)) fun level => ?_
      have := middle_le.mpr level.le
      have := le_middle.mpr level.ge
      omega
  · have largest : (ticks infinity : ℚ) ≤ num / den :=
      (Nat.cast_le.mpr (ticks_strictMono.monotone beyond)).trans above
    rw [Nat.min_eq_right (by split <;> omega)]
    exact isNearest_last largest

/-- A number is nearest to infinity exactly from the middle between the largest finite
magnitude and the next one on.
-/
theorem IsNearest.eq_infinity_iff (nearest : IsNearest infinity count index)
    : index = infinity ↔ (ticks (infinity - 1) + ticks infinity : ℚ) ≤ 2 * count := by
  have last : infinity - 1 < infinity := by decide
  constructor
  · rintro rfl
    exact (distance_upper_le_iff last).mp (nearest.closest _ last.le)
  · intro far
    refine nearest.unique ?_
    rcases le_or_gt (ticks infinity : ℚ) count with above | below
    · exact isNearest_last above
    · have below' : count < ticks (infinity - 1 + 1) := below
      exact isNearest_upper below' (Nat.le_refl _) far fun _ => by decide

/-- What is at most half a tick is nearest to nothing. -/
theorem isNearest_zero (nonneg : 0 ≤ count) (small : 2 * count ≤ 1)
    : IsNearest infinity count 0 := by
  have none : ticks 0 = 0 := rfl
  have one : ticks (0 + 1) = 1 := rfl
  refine isNearest_lower ?_ (by decide) ?_ ?_ fun _ => rfl
  · rw [one, Nat.cast_one]
    linarith
  · simpa [none] using nonneg
  · simpa [none, one] using small

end Formulary.Binary64
