import Formulary.Proofs.Binary64.NearestMagnitudes
import Formulary.Proofs.Binary64.SignedMagnitudes

/-! Correct rounding of a number which is not negative, stated of binary64 values alone: the
result is at least as near as every finite value, a tie goes to the even mantissa, and what is
too large is infinite. There is exactly one such value, the one at the nearest magnitude.
-/

namespace Formulary.Binary64

open Float.Model (UnpackedFloat)

-----------------------------------------------------------------------------------------
-- Exact values
-----------------------------------------------------------------------------------------

/-- The number which a finite value is, a mantissa times a power of two. -/
def number? (x : Float) : Option ℚ :=
  match UnpackedFloat.unpack .binary64 x.toBits.toBitVec with
  | .zero _ => some 0
  | .finite .positive mantissa exponent _ => some (mantissa * 2 ^ exponent)
  | .finite .negative mantissa exponent _ => some (-(mantissa * 2 ^ exponent))
  | _ => none

/-- The number at an index, without a sign. -/
def magnitude (index : Nat) : ℚ :=
  ticks index / ticksPerUnit

theorem cast_one_shiftLeft (count : Nat) : ((1 <<< count : Nat) : ℚ) = 2 ^ count := by
  rw [Nat.one_shiftLeft, Nat.cast_pow, Nat.cast_two]

theorem cast_ticksPerUnit : (ticksPerUnit : ℚ) = 2 ^ 1074 :=
  cast_one_shiftLeft 1074

theorem ticksPerUnit_pos : (0 : ℚ) < ticksPerUnit := by
  rw [cast_ticksPerUnit]
  exact pow_pos two_pos 1074

theorem magnitude_mul_ticksPerUnit (index : Nat) : magnitude index * ticksPerUnit = ticks index :=
  div_mul_cancel₀ _ ticksPerUnit_pos.ne'

/-- The number at an index is the mantissa times the power of two. -/
theorem magnitude_subnormal {index : Nat} (low : index < binade)
    : magnitude index = index * 2 ^ (-1074 : Int) := by
  rw [magnitude, ticks_of_lt low, cast_ticksPerUnit, zpow_neg, div_eq_mul_inv]
  rfl

theorem magnitude_normal {index : Nat} (full : binade ≤ index)
    : magnitude index
      = ((binade + index % binade : Nat) : ℚ) * 2 ^ ((index / binade : Nat) - 1075 : Int) := by
  have positive : 0 < index / binade := Nat.div_pos full binade_pos
  obtain ⟨exponent, power⟩ := Nat.exists_eq_succ_of_ne_zero (Nat.ne_of_gt positive)
  have split : ((exponent.succ : Nat) - 1075 : Int) = (exponent : Int) - (1074 : Nat) := by omega
  rw [magnitude, ticks, if_neg (Nat.not_lt.mpr full), Nat.shiftLeft_eq, cast_ticksPerUnit, power,
    Nat.succ_sub_one, split, zpow_sub₀ two_ne_zero, zpow_natCast, zpow_natCast, Nat.cast_mul,
    Nat.cast_pow, Nat.cast_two, mul_div_assoc]

/-- A finite value is the number at its index with its sign. -/
theorem number?_eq {x : Float} (finite : index x < infinity)
    : number? x
      = some (if isNegative x then -magnitude (index x) else magnitude (index x)) := by
  have zero : magnitude 0 = 0 := by
    rw [magnitude_subnormal binade_pos]
    simp
  rw [number?, toBitVec_toBits]
  rcases Nat.lt_or_ge (index x) binade with low | full
  · rcases Nat.eq_zero_or_pos (index x) with none | positive
    · rw [none, unpack_zero, zero]
      simp
    · rw [unpack_subnormal _ positive low, magnitude_subnormal low]
      cases isNegative x <;> rfl
  · rw [unpack_normal _ full finite, magnitude_normal full]
    cases isNegative x <;> rfl

/-- Only a finite value is a number. -/
theorem finite_of_number? {x : Float} {value : ℚ} (exact : number? x = some value)
    : index x < infinity := by
  have small := index_lt_signBit x
  rw [← isFinite_unpack_iff (signOf (isNegative x)) small, ← toBitVec_toBits]
  rw [number?] at exact
  cases unpacked : UnpackedFloat.unpack .binary64 x.toBits.toBitVec with
  | notANumber | infinity =>
      rw [unpacked] at exact
      cases exact
  | zero | finite => rfl

-----------------------------------------------------------------------------------------
-- Correct rounding
-----------------------------------------------------------------------------------------

/-- Halfway from the largest finite value to the next power of two. -/
def overflow : ℚ :=
  2 ^ 1024 - 2 ^ 970

/-- The value is what the number rounds to. It has no minus sign. From the middle between the
largest finite value and the next power of two on it is infinite. Below, no finite value is
nearer to the number, and where another is as near, the last bit of the mantissa is zero.
-/
structure RoundsTo (number : ℚ) (x : Float) : Prop where
  positive : isNegative x = false
  infinite : overflow ≤ number → x = ofIndex false infinity
  nearest
    : number < overflow
      → ∃ value,
          number? x = some value
          ∧ ∀ other value',
              number? other = some value'
              → |value - number| ≤ |value' - number|
                ∧ (value' ≠ value
                  → |value' - number| = |value - number| → x.toBits.toNat % 2 = 0)

theorem magnitude_nonneg (index : Nat) : 0 ≤ magnitude index :=
  div_nonneg (Nat.cast_nonneg _) ticksPerUnit_pos.le

/-- The distance of a magnitude is that in ticks, scaled. -/
theorem abs_magnitude_sub (index : Nat) (number : ℚ)
    : |magnitude index - number| = distance (number * ticksPerUnit) index / ticksPerUnit := by
  have scaled
      : magnitude index - number = (ticks index - number * ticksPerUnit) / ticksPerUnit := by
    rw [magnitude, sub_div, mul_div_cancel_right₀ _ ticksPerUnit_pos.ne']
  rw [scaled, abs_div, abs_of_pos ticksPerUnit_pos, distance]

/-- One magnitude is at most as far as another, in ticks or as a number. -/
theorem abs_magnitude_sub_le_iff {index other : Nat} {number : ℚ}
    : |magnitude index - number| ≤ |magnitude other - number|
      ↔ distance (number * ticksPerUnit) index ≤ distance (number * ticksPerUnit) other := by
  rw [abs_magnitude_sub, abs_magnitude_sub, div_le_div_iff_of_pos_right ticksPerUnit_pos]

/-- What is infinite begins in the middle between the last two magnitudes. -/
theorem two_mul_overflow
    : 2 * (overflow * ticksPerUnit) = ticks (infinity - 1) + ticks infinity := by
  have whole
      : 2 * ((2 ^ 1024 - 2 ^ 970) * ticksPerUnit) = ticks (infinity - 1) + ticks infinity := by
    decide +kernel
  have smaller {exponent top : Nat} (bounded : exponent ≤ top) : 2 ^ exponent ≤ 2 ^ top :=
    Nat.pow_le_pow_right two_pos bounded
  have cast := congrArg (Nat.cast : Nat → ℚ) whole
  rw [Nat.cast_mul, Nat.cast_mul, Nat.cast_sub (smaller (by decide)), Nat.cast_pow, Nat.cast_pow,
    Nat.cast_add, Nat.cast_two] at cast
  exact cast

variable {number : ℚ} {best : Nat} {x y : Float}

/-- A number is nearest to infinity exactly if it is too large for a finite value. -/
theorem IsNearest.eq_infinity_iff_overflow
    (nearest : IsNearest infinity (number * ticksPerUnit) best)
    : best = infinity ↔ overflow ≤ number := by
  rw [nearest.eq_infinity_iff, ← two_mul_overflow, mul_le_mul_iff_right₀ two_pos,
    mul_le_mul_iff_left₀ ticksPerUnit_pos]

/-- A value without a minus sign is the number at its index. -/
theorem number?_of_positive (positive : isNegative x = false) (finite : index x < infinity)
    : number? x = some (magnitude (index x)) := by
  simp [number?_eq finite, positive]

/-- With either sign a finite value is as large as the number at its index. -/
theorem abs_number? {value : ℚ} (exact : number? x = some value)
    : |value| = magnitude (index x) := by
  rw [number?_eq (finite_of_number? exact), Option.some.injEq] at exact
  rw [← exact]
  split <;> simp [abs_of_nonneg (magnitude_nonneg _)]

/-- The index of the value at an index. -/
theorem index_ofIndex (negative : Bool) (within : best ≤ infinity)
    : index (ofIndex negative best) = best := by
  rw [index, toNat_ofIndex within]
  split
  · rw [Nat.add_mod_left, Nat.mod_eq_of_lt (lt_signBit_of_le within)]
  · exact Nat.mod_eq_of_lt (lt_signBit_of_le within)

/-- The value at the nearest magnitude is correctly rounded. -/
theorem roundsTo_of_isNearest (nonneg : 0 ≤ number)
    (nearest : IsNearest infinity (number * ticksPerUnit) best)
    : RoundsTo number (ofIndex false best) where
  positive := isNegative_ofIndex nearest.within
  infinite large := by rw [nearest.eq_infinity_iff_overflow.mpr large]
  nearest small := by
    have finite : best < infinity :=
      Nat.lt_of_le_of_ne nearest.within fun last =>
        absurd (nearest.eq_infinity_iff_overflow.mp last) (not_le.mpr small)
    have own := index_ofIndex false nearest.within
    have exact := number?_of_positive (isNegative_ofIndex nearest.within) (own.symm ▸ finite)
    rw [own] at exact
    refine ⟨magnitude best, exact, fun other value' exact' => ?_⟩
    have finite' := finite_of_number? exact'
    have size := abs_number? exact'
    -- A minus sign takes the other value farther away from the number.
    have signed : |magnitude (index other) - number| ≤ |value' - number| := by
      have apart := abs_abs_sub_abs_le value' number
      rwa [size, abs_of_nonneg nonneg] at apart
    have closest := nearest.closest _ finite'.le
    refine ⟨(abs_magnitude_sub_le_iff.mpr closest).trans signed, fun different level => ?_⟩
    rw [toNat_ofIndex nearest.within]
    by_cases same : index other = best
    · -- Then the two differ in their signs alone, and only nothing is in their middle.
      rw [same] at size
      have opposite : value' = -magnitude best :=
        (eq_or_eq_neg_of_abs_eq size).resolve_left different
      have middle : number = 0 := by
        rw [opposite] at level different
        rcases abs_eq_abs.mp level with equal | equal
        · exact absurd (by linarith) different
        · linarith
      rw [middle, zero_mul] at nearest
      rw [nearest.unique (isNearest_zero le_rfl (by simp))]
      rfl
    · have level := abs_magnitude_sub_le_iff.mp (signed.trans level.le)
      exact nearest.even _ finite'.le same (le_antisymm level closest)

/-- Different indices are different numbers. -/
theorem magnitude_injective : Function.Injective magnitude := by
  intro first second same
  rw [magnitude, magnitude, div_left_inj' ticksPerUnit_pos.ne', Nat.cast_inj] at same
  exact ticks_strictMono.injective same

/-- A finite value to which a number rounds is nearest among the finite magnitudes. -/
theorem RoundsTo.isNearest (rounds : RoundsTo number x) (small : number < overflow)
    : IsNearest (infinity - 1) (number * ticksPerUnit) (index x) := by
  obtain ⟨value, exact, closest⟩ := rounds.nearest small
  have finite := finite_of_number? exact
  rw [number?_of_positive rounds.positive finite] at exact
  cases exact
  have value_at {other : Nat} (listed : other ≤ infinity - 1)
      : number? (ofIndex false other) = some (magnitude other) := by
    have within : other ≤ infinity := Nat.le_trans listed (Nat.sub_le _ _)
    have own := index_ofIndex false within
    have below : other < infinity := Nat.lt_of_le_pred (by decide) listed
    rw [number?_of_positive (isNegative_ofIndex within) (own.symm ▸ below), own]
  refine ⟨Nat.le_pred_of_lt finite, fun other listed => ?_, fun other listed different level => ?_⟩
  · exact abs_magnitude_sub_le_iff.mp (closest _ _ (value_at listed)).1
  · have level' : |magnitude other - number| = |magnitude (index x) - number| := by
      rw [abs_magnitude_sub, abs_magnitude_sub, level]
    have even := (closest _ _ (value_at listed)).2 (magnitude_injective.ne different) level'
    rwa [index, Nat.mod_mod_of_dvd _ (by decide : 2 ∣ signBit)]

/-- There is one value only to which a number rounds. -/
theorem RoundsTo.unique (first : RoundsTo number x) (second : RoundsTo number y) : x = y := by
  rcases le_or_gt overflow number with large | small
  · rw [first.infinite large, second.infinite large]
  · have same := (first.isNearest small).unique (second.isNearest small)
    have finite {z : Float} (rounds : RoundsTo number z) : index z ≤ infinity :=
      Nat.le_trans (rounds.isNearest small).within (Nat.sub_le _ _)
    rw [← ofIndex_index (finite first), ← ofIndex_index (finite second), first.positive,
      second.positive, same]

/-- An integer which is not negative goes to the value to which it rounds. -/
theorem roundsTo_ofInt {value : Int} (nonneg : 0 ≤ value) : RoundsTo value (ofInt value) := by
  have nearest := isNearest_nearest (value.natAbs * ticksPerUnit) Nat.one_pos
  have whole : (value.natAbs : ℚ) = value := by
    rw [Nat.cast_natAbs, abs_of_nonneg nonneg]
  rw [Nat.cast_mul, whole, Nat.cast_one, div_one] at nearest
  have positive : decide (value < 0) = false := decide_eq_false (Int.not_lt.mpr nonneg)
  rw [ofInt, positive]
  exact roundsTo_of_isNearest (by exact_mod_cast nonneg) nearest

end Formulary.Binary64
