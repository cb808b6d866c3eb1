import Formulary.Proofs.Decimal.GridNeighbours

/-! The shortest decimal of a magnitude is what it is called: it has the fewest digits of all
decimals which read back as the magnitude, and is the nearest of those. Seventeen digits are always
enough, because neighbours on that grid are closer than magnitudes are.
-/

namespace Formulary

namespace Decimal

open Binary64 (infinity ticks ticksPerUnit magnitude)

variable {decimal other : Decimal} {index : Nat}

-----------------------------------------------------------------------------------------
-- Decimals of one number
-----------------------------------------------------------------------------------------

theorem value_spread (decimal : Decimal) (count : Nat)
    : (decimal.spread count).value = decimal.value := by
  rw [spread, value, Nat.cast_mul, mul_assoc, pow_mul_zpow, add_sub_cancel, value]

theorem value_trim (decimal : Decimal) : decimal.trim.value = decimal.value := by
  fun_induction trim decimal with
  | case1 decimal zeros ih => rw [ih, ← value_spread _ 1, ← eq_spread_of_trailing_zero zeros.2]
  | case2 => rfl

/-- A trimmed decimal ends in another digit than zero. -/
theorem coefficient_trim_mod (positive : 0 < decimal.coefficient)
    : decimal.trim.coefficient % 10 ≠ 0 := by
  fun_induction trim decimal with
  | case1 decimal zeros ih => exact ih (by simp only; omega)
  | case2 decimal other => exact fun zero => other ⟨positive.ne', zero⟩

theorem value_pos_iff (decimal : Decimal) : 0 < decimal.value ↔ 0 < decimal.coefficient := by
  rw [value, mul_pos_iff_of_pos_right (power_pos _), Nat.cast_pos]

/-- If a decimal ends in another digit than zero, then all decimals of the same number are that one
with zeros at its end.
-/
theorem exists_eq_spread (trimmed : decimal.coefficient % 10 ≠ 0)
    (same : other.value = decimal.value)
    : ∃ count, other = decimal.spread count := by
  rcases Int.lt_or_le decimal.exponent other.exponent with coarser | finer
  · -- Then the decimal would end in zeros.
    obtain ⟨count, split⟩ := Int.le.dest coarser
    have exponent : other.exponent = (count + 1 : Nat) + decimal.exponent := by omega
    rw [value, value, exponent, ← pow_mul_zpow, ← mul_assoc,
      mul_left_inj' (power_pos _).ne', ← Nat.cast_mul, Nat.cast_inj, Nat.pow_succ,
      ← Nat.mul_assoc] at same
    omega
  · obtain ⟨count, split⟩ := Int.le.dest finer
    have exponent : decimal.exponent = count + other.exponent := by omega
    rw [value, value, exponent, ← pow_mul_zpow, ← mul_assoc,
      mul_left_inj' (power_pos _).ne', ← Nat.cast_mul, Nat.cast_inj] at same
    refine ⟨count, ?_⟩
    rw [spread, ← same, exponent, Int.add_comm, Int.add_sub_cancel]

theorem length_digits_spread (positive : 0 < decimal.coefficient) (count : Nat)
    : (decimal.spread count).digits.length = decimal.digits.length + count :=
  length_toDigits_mul_pow positive count

/-- A trimmed decimal has the fewest digits of its number. -/
theorem length_digits_trim_le (positive : 0 < decimal.coefficient)
    (same : other.value = decimal.value)
    : decimal.trim.digits.length ≤ other.digits.length := by
  rw [← value_trim decimal] at same
  have positive' : 0 < decimal.trim.coefficient := by
    rwa [← value_pos_iff, value_trim, value_pos_iff]
  obtain ⟨count, rfl⟩ := exists_eq_spread (coefficient_trim_mod positive) same
  rw [length_digits_spread positive']
  exact Nat.le_add_right _ count

-----------------------------------------------------------------------------------------
-- Shortest decimals
-----------------------------------------------------------------------------------------

/-- The decimal has the fewest digits of all which read back as the magnitude, and is the nearest of
those, the larger one of two which are equally near.
-/
structure IsShortest (index : Nat) (decimal : Decimal) : Prop where
  reads : decimal.index = index
  fewest : ∀ other : Decimal, other.index = index → decimal.digits.length ≤ other.digits.length
  nearest
    : ∀ other : Decimal,
        other.index = index
        → other.digits.length = decimal.digits.length
        → |decimal.value - magnitude index| ≤ |other.value - magnitude index|
  larger
    : ∀ other : Decimal,
        other.index = index
        → other.digits.length = decimal.digits.length
        → |other.value - magnitude index| = |decimal.value - magnitude index|
        → other.value ≤ decimal.value

theorem coefficient_pos_of_index (positive : 0 < index) (reads : decimal.index = index)
    : 0 < decimal.coefficient := by
  by_contra none
  rw [Decimal.index, if_pos (Nat.eq_zero_of_not_pos none)] at reads
  exact Nat.ne_of_lt positive reads

/-- What has the fewest digits does not end in a zero. -/
theorem IsShortest.coefficient_mod (shortest : IsShortest index decimal) (positive : 0 < index)
    : decimal.coefficient % 10 ≠ 0 := by
  intro zero
  have split := eq_spread_of_trailing_zero zero
  generalize Decimal.mk (decimal.coefficient / 10) (decimal.exponent + 1) = shorter at split
  have reads : shorter.index = index := by
    rw [← index_spread shorter 1, ← split]
    exact shortest.reads
  have length := length_digits_spread (coefficient_pos_of_index positive reads) 1
  have fewest := shortest.fewest shorter reads
  rw [← split] at length
  omega

/-- A magnitude has one shortest decimal only. -/
theorem IsShortest.unique (positive : 0 < index) (first : IsShortest index decimal)
    (second : IsShortest index other)
    : decimal = other := by
  have length : decimal.digits.length = other.digits.length :=
    Nat.le_antisymm (first.fewest other second.reads) (second.fewest decimal first.reads)
  have distance : |decimal.value - magnitude index| = |other.value - magnitude index| :=
    le_antisymm (first.nearest other second.reads length.symm)
      (second.nearest decimal first.reads length)
  have same : decimal.value = other.value :=
    le_antisymm (second.larger decimal first.reads length distance)
      (first.larger other second.reads length.symm distance.symm)
  obtain ⟨count, rfl⟩ := exists_eq_spread (second.coefficient_mod positive) same
  have positive' := coefficient_pos_of_index positive second.reads
  rw [length_digits_spread positive'] at length
  obtain rfl : count = 0 := by omega
  rw [spread, Nat.pow_zero, Nat.mul_one, Int.ofNat_zero, Int.sub_zero]

-----------------------------------------------------------------------------------------
-- Seventeen digits
-----------------------------------------------------------------------------------------

/-- What is strictly between the middles to both sides of a magnitude reads back as it. -/
theorem index_of_between {before : Nat} (finite : before + 1 < infinity)
    (low
      : (ticks before + ticks (before + 1) : ℚ) < 2 * (decimal.value * ticksPerUnit))
    (high
      : 2 * (decimal.value * ticksPerUnit)
        < (ticks (before + 1) + ticks (before + 1 + 1) : ℚ))
    : decimal.index = before + 1 := by
  have below : (ticks before : ℚ) < ticks (before + 1) :=
    Nat.cast_lt.mpr (Binary64.ticks_lt_succ before)
  refine decimal.isNearest_index.unique ?_
  rcases lt_or_ge (decimal.value * ticksPerUnit) (ticks (before + 1)) with under | beyond
  · exact Binary64.isNearest_upper under finite.le low.le fun level => absurd level low.ne'
  · exact Binary64.isNearest_lower (by linarith) finite beyond high.le fun level =>
      absurd level high.ne

/-- On the grid of seventeen digits the neighbours are closer to a magnitude than other magnitudes
are.
-/
theorem index_of_seventeen_digits (positive : 0 < index) (finite : index < infinity)
    : (below index (orderOf index - 17)).index = index
      ∨ (above index (orderOf index - 17)).index = index := by
  obtain ⟨before, rfl⟩ := Nat.exists_eq_succ_of_ne_zero (Nat.ne_of_gt positive)
  generalize grid : orderOf (before + 1) - 17 = exponent
  have unit := Binary64.ticksPerUnit_pos
  -- In ticks, the grid is at least as fine as one part in `10 ^ 16` of the magnitude.
  have fine : 10 ^ 16 * (10 ^ exponent * ticksPerUnit) ≤ (ticks (before + 1) : ℚ) := by
    have least := power_le_magnitude positive
    have split : orderOf (before + 1) - 1 = (16 : Nat) + exponent := by omega
    rw [split, ← pow_mul_zpow, Nat.cast_pow, Nat.cast_ofNat] at least
    rw [← mul_assoc]
    exact (le_div_iff₀ unit).mp least
  have under : (below (before + 1) exponent).value * ticksPerUnit ≤ ticks (before + 1) :=
    (le_div_iff₀ unit).mp (value_below_le _ _)
  have beyond : ticks (before + 1) < (above (before + 1) exponent).value * ticksPerUnit :=
    (div_lt_iff₀ unit).mp (lt_value_above _ _)
  have apart
      : (above (before + 1) exponent).value * ticksPerUnit
        = (below (before + 1) exponent).value * ticksPerUnit + 10 ^ exponent * ticksPerUnit := by
    rw [value_above, add_mul]
  have gap : (ticks (before + 1) + 2 ^ 53 * ticks before : ℚ) ≤ 2 ^ 53 * ticks (before + 1) := by
    exact_mod_cast Binary64.ticks_succ_le before
  have gap'
      : (ticks (before + 1 + 1) + 2 ^ 53 * ticks (before + 1) : ℚ)
        ≤ 2 ^ 53 * ticks (before + 1 + 1) := by
    exact_mod_cast Binary64.ticks_succ_le (before + 1)
  have next : (ticks (before + 1) : ℚ) < ticks (before + 1 + 1) :=
    Nat.cast_lt.mpr (Binary64.ticks_lt_succ (before + 1))
  rcases lt_or_ge
      (2 * ((above (before + 1) exponent).value * ticksPerUnit))
      (ticks (before + 1) + ticks (before + 1 + 1) : ℚ) with near | far
  · exact .inr (index_of_between finite (by linarith) near)
  · exact .inl (index_of_between finite (by linarith) (by linarith))

-----------------------------------------------------------------------------------------
-- The search
-----------------------------------------------------------------------------------------

/-- The comparison with the middle is that of the magnitude with the middle of its neighbours. -/
theorem lt_middle_iff (index : Nat) (exponent : Int)
    : 2 * (scaled (ticks index) exponent).1
        < (2 * (below index exponent).coefficient + 1) * (scaled (ticks index) exponent).2
      ↔ 2 * magnitude index < (below index exponent).value + (above index exponent).value := by
  have positive : (0 : ℚ) < (scaled (ticks index) exponent).2 :=
    Nat.cast_pos.mpr (scaled_den_pos (ticks index) exponent)
  have sum
      : (below index exponent).value + (above index exponent).value
        = (2 * (below index exponent).coefficient + 1) * 10 ^ exponent := by
    rw [value_above, value, below]
    ring
  rw [sum, magnitude, ← scaled_mul_power, ← mul_assoc,
    mul_lt_mul_iff_left₀ (power_pos exponent), mul_div_assoc', div_lt_iff₀ positive]
  exact_mod_cast Iff.rfl

/-- A neighbour which reads back is taken, the nearer one if both do, the upper one at a tie. -/
theorem neighbour?_up (index : Nat) (exponent : Int)
    : neighbour? .up index exponent
      = if (below index exponent).index = index then
          if (above index exponent).index = index then
            if 2 * magnitude index < (below index exponent).value + (above index exponent).value
            then some (below index exponent)
            else some (above index exponent)
          else some (below index exponent)
        else if (above index exponent).index = index then some (above index exponent)
        else none := by
  simp only [← lt_middle_iff]
  rw [neighbour?]
  simp only [Tie.keepsLower, Bool.false_eq_true, and_false, or_false]
  rfl

/-- Nothing is found only if neither neighbour reads back. -/
theorem index_ne_of_neighbour?_eq_none {exponent : Int}
    (missed : neighbour? .up index exponent = none)
    : (below index exponent).index ≠ index ∧ (above index exponent).index ≠ index := by
  rw [neighbour?_up] at missed
  split at missed
  · split at missed
    · split at missed <;> cases missed
    · cases missed
  · rename_i lower
    split at missed
    · cases missed
    · rename_i upper
      exact ⟨lower, upper⟩

/-- What is found is the neighbour which is nearer, as far as the other one reads back. -/
theorem neighbour?_cases {exponent : Int} (found : neighbour? .up index exponent = some decimal)
    : (decimal = below index exponent
        ∧ ((above index exponent).index = index
          → 2 * magnitude index < (below index exponent).value + (above index exponent).value))
      ∨ (decimal = above index exponent
        ∧ ((below index exponent).index = index
          → (below index exponent).value + (above index exponent).value
            ≤ 2 * magnitude index)) := by
  rw [neighbour?_up] at found
  split at found
  · split at found
    · split at found
      · rename_i near
        cases found
        exact .inl ⟨rfl, fun _ => near⟩
      · rename_i far
        cases found
        exact .inr ⟨rfl, fun _ => not_lt.mp far⟩
    · rename_i missed
      cases found
      exact .inl ⟨rfl, fun reads => absurd reads missed⟩
  · rename_i missed
    split at found
    · cases found
      exact .inr ⟨rfl, fun reads => absurd reads missed⟩
    · cases found

/-- What is found is at least as near as a number behind a neighbour which reads back, and not
below a number which is as near.
-/
theorem nearest_of_neighbour? {exponent : Int} {number : ℚ}
    (found : neighbour? .up index exponent = some decimal)
    (behind
      : (number ≤ (below index exponent).value ∧ (below index exponent).index = index)
        ∨ ((above index exponent).value ≤ number ∧ (above index exponent).index = index))
    : |decimal.value - magnitude index| ≤ |number - magnitude index|
      ∧ (|number - magnitude index| = |decimal.value - magnitude index|
          → number ≤ decimal.value) := by
  have low := value_below_le index exponent
  have high := lt_value_above index exponent
  -- A number is above or below the magnitude like the neighbour before it.
  rcases neighbour?_cases found with ⟨rfl, near⟩ | ⟨rfl, far⟩
  · rw [abs_of_nonpos (sub_nonpos.mpr low)]
    rcases behind with ⟨before, -⟩ | ⟨behind, upper⟩
    · rw [abs_of_nonpos (by linarith)]
      exact ⟨by linarith, fun _ => before⟩
    · have middle := near upper
      rw [abs_of_nonneg (by linarith)]
      exact ⟨by linarith, fun level => by linarith⟩
  · rw [abs_of_nonneg (sub_nonneg.mpr high.le)]
    rcases behind with ⟨before, lower⟩ | ⟨behind, -⟩
    · have middle := far lower
      rw [abs_of_nonpos (by linarith)]
      exact ⟨by linarith, fun _ => by linarith⟩
    · rw [abs_of_nonneg (by linarith)]
      exact ⟨by linarith, fun level => by linarith⟩

theorem coefficient_below_lt {exponent : Int} {count : Nat} (top : orderOf index = count + exponent)
    : (below index exponent).coefficient < 10 ^ count := by
  by_contra reached
  have most := (le_below_iff index (10 ^ count) exponent).mp (Nat.not_lt.mp reached)
  rw [pow_mul_zpow, ← top] at most
  exact absurd (magnitude_lt_power index) (not_lt.mpr most)

/-- What is found on the grid of so many digits has no more than those without zeros at its end. -/
theorem length_digits_trim_of_neighbour? {more : Nat} (positive : 0 < index)
    (found : neighbour? .up index (orderOf index - (more + 1)) = some decimal)
    : decimal.trim.digits.length ≤ more + 1 := by
  have positive' := coefficient_pos_of_index positive (index_of_neighbour? found)
  have under : (below index (orderOf index - (more + 1))).coefficient < 10 ^ (more + 1) :=
    coefficient_below_lt (by omega)
  have most : decimal.coefficient ≤ 10 ^ (more + 1) := by
    rcases neighbour?_cases found with ⟨rfl, -⟩ | ⟨rfl, -⟩
    · exact under.le
    · exact under
  rcases Nat.lt_or_eq_of_le most with short | power
  · exact (length_digits_trim_le positive' rfl).trans
      ((Nat.length_toDigits_le_iff (by decide) (Nat.succ_pos more)).mpr short)
  · -- A power of ten is a single digit without its zeros.
    have same
        : value { coefficient := 1, exponent := (more + 1 : Nat) + decimal.exponent }
          = decimal.value := by
      rw [value, value, power, pow_mul_zpow, Nat.cast_one, one_mul]
    exact (length_digits_trim_le positive' same).trans
      ((Nat.length_toDigits_le_iff (by decide) (Nat.succ_pos more)).mpr
        (Nat.one_lt_pow (Nat.succ_ne_zero more) (by decide)))

/-- If nothing is found for fewer digits, then no decimal with fewer digits reads back. -/
theorem le_length_digits {more : Nat} (positive : 0 < index) (finite : index < infinity)
    (missed : ∀ fewer < more, neighbour? .up index (orderOf index - (fewer + 1)) = none)
    (reads : other.index = index)
    : more + 1 ≤ other.digits.length := by
  by_contra short
  have some : 0 < other.digits.length := List.length_pos_iff.mpr Nat.toDigits_ne_nil
  obtain ⟨fewer, rfl⟩ : ∃ fewer, more = fewer + 1 := ⟨more - 1, by omega⟩
  obtain ⟨lower, upper⟩ := index_ne_of_neighbour?_eq_none (missed fewer (Nat.lt_succ_self fewer))
  have few : other.digits.length ≤ fewer + 1 := by omega
  rcases index_of_neighbour positive finite few reads with ⟨-, hit⟩ | ⟨-, hit⟩
  · exact lower hit
  · exact upper hit

/-- The first hit of a search along the natural numbers. -/
theorem exists_of_findSome?_range {α : Type} {search : Nat → Option α} {count : Nat} {found : α}
    (hit : (List.range count).findSome? search = some found)
    : ∃ first, search first = some found ∧ ∀ before < first, search before = none := by
  induction count with
  | zero => cases hit
  | succ count ih =>
      rw [List.range_succ, List.findSome?_append, Option.or_eq_some_iff] at hit
      rcases hit with earlier | ⟨missed, last⟩
      · exact ih earlier
      · refine ⟨count, by simpa using last, fun before small => ?_⟩
        exact List.findSome?_eq_none_iff.mp missed before (List.mem_range.mpr small)

/-- The first grid with a hit gives the shortest decimal. -/
theorem isShortest_trim {more : Nat} (positive : 0 < index) (finite : index < infinity)
    (found : neighbour? .up index (orderOf index - (more + 1)) = some decimal)
    (missed : ∀ fewer < more, neighbour? .up index (orderOf index - (fewer + 1)) = none)
    : IsShortest index decimal.trim := by
  have few := length_digits_trim_of_neighbour? positive found
  -- Another decimal with as few digits is behind a neighbour which reads back.
  have nearest {other : Decimal} (reads : other.index = index)
      (same : other.digits.length = decimal.trim.digits.length) :=
    nearest_of_neighbour? found (index_of_neighbour positive finite (same ▸ few) reads)
  refine ⟨?_, fun other reads => ?_, fun other reads same => ?_, fun other reads same => ?_⟩
  · rw [index_trim, index_of_neighbour? found]
  · exact few.trans (le_length_digits positive finite missed reads)
  · rw [value_trim]
    exact (nearest reads same).1
  · rw [value_trim]
    exact (nearest reads same).2

/-- The search finds the shortest decimal of every positive magnitude. -/
theorem isShortest_shortest (positive : 0 < index) (finite : index < infinity)
    : IsShortest index (shortest .up index) := by
  simp only [shortest]
  cases hit : (List.range 17).findSome?
      fun (n : Nat) => neighbour? .up index (orderOf index - (n + 1)) with
  | none =>
      have missed := List.findSome?_eq_none_iff.mp hit 16 (by decide)
      obtain ⟨lower, upper⟩ := index_ne_of_neighbour?_eq_none missed
      rcases index_of_seventeen_digits positive finite with reads | reads
      · exact absurd reads lower
      · exact absurd reads upper
  | some decimal =>
      obtain ⟨more, found, missed⟩ := exists_of_findSome?_range hit
      exact isShortest_trim positive finite found missed

/-- The shortest decimal is the one which is found. -/
theorem isShortest_iff (positive : 0 < index) (finite : index < infinity)
    : IsShortest index decimal ↔ decimal = shortest .up index := by
  have found := isShortest_shortest positive finite
  refine ⟨fun shortest => shortest.unique positive found, ?_⟩
  rintro rfl
  exact found

end Decimal

end Formulary
