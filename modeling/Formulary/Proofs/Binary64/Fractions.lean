import Formulary.Proofs.Binary64.IntegerCasts

/-! What is behind the point of a value. It is the difference of the value and its whole part, and a
difference of two values is rounded to zero only if they are the same number. So nothing is behind
the point of exactly the values which are integers.
-/

namespace Formulary.Binary64

open Float.Model (Format UnpackedFloat)
open Float.Model.UnpackedFloat

-----------------------------------------------------------------------------------------
-- Mantissas and exponents
-----------------------------------------------------------------------------------------

/-- The mantissa and the exponent stand at the index. Only the least exponent has mantissas which
are not full.
-/
structure StandsAt (index mantissa : Nat) (exponent : Int) : Prop where
  place : (index : Int) = (exponent + 1074) * binade + mantissa
  short : mantissa < 2 ^ 53
  least : -1074 ≤ exponent
  full : -1074 < exponent → binade ≤ mantissa

/-- A magnitude other than zero is taken apart into what stands at its index. -/
theorem exists_unpack_eq (sign : UnpackedFloat.Sign) {index : Nat} (positive : 0 < index)
    (finite : index < infinity)
    : ∃ mantissa exponent nonzero,
        unpack .binary64 (bits sign index) = .finite sign mantissa exponent nonzero
        ∧ StandsAt index mantissa exponent := by
  rcases Nat.lt_or_ge index binade with low | full
  · refine ⟨index, -1074, positive, unpack_subnormal sign positive low, ?_⟩
    refine ⟨by omega, Nat.lt_trans low (by decide), Int.le_refl _, fun above => ?_⟩
    exact absurd above (Int.lt_irrefl _)
  · have quotient : 0 < index / binade := Nat.div_pos full binade_pos
    have remainder : index % binade < binade := Nat.mod_lt _ binade_pos
    have split := Nat.div_add_mod' index binade
    refine ⟨_, _, _, unpack_normal sign full finite, ?_, ?_, by omega, fun _ => by omega⟩
    · unfold binade at *
      omega
    · unfold binade at *
      omega

/-- Mantissas and exponents are in the order of their indices. -/
theorem StandsAt.lt_iff {low high mantissa mantissa' : Nat} {exponent exponent' : Int}
    (first : StandsAt low mantissa exponent) (second : StandsAt high mantissa' exponent')
    : low < high ↔ exponent < exponent' ∨ exponent = exponent' ∧ mantissa < mantissa' := by
  obtain ⟨place, short, least, full⟩ := first
  obtain ⟨place', short', least', full'⟩ := second
  unfold binade at *
  omega

-----------------------------------------------------------------------------------------
-- Comparisons
-----------------------------------------------------------------------------------------

/-- Values are compared part by part. -/
theorem lt_iff_compare {x y : Float}
    : x < y
      ↔ UnpackedFloat.compare (unpack .binary64 x.toBits.toBitVec)
          (unpack .binary64 y.toBits.toBitVec)
        = some .lt := by
  change decide (UnpackedFloat.lt (unpack .binary64 x.toBits.toBitVec)
    (unpack .binary64 y.toBits.toBitVec) = true) = true ↔ _
  rw [decide_eq_true_iff, UnpackedFloat.lt, beq_iff_eq]

/-- Magnitudes are compared as their indices. -/
theorem ofIndex_lt_iff {low high : Nat} (finite : low < infinity) (finite' : high < infinity)
    : ofIndex false low < ofIndex false high ↔ low < high := by
  have sign : signOf false = .positive := rfl
  rw [lt_iff_compare, toBitVec_ofIndex finite.le, toBitVec_ofIndex finite'.le, sign]
  rcases Nat.eq_zero_or_pos low with rfl | positive
    <;> rcases Nat.eq_zero_or_pos high with rfl | positive'
  · simp [unpack_zero, UnpackedFloat.compare]
  · obtain ⟨_, _, _, unpacked', -⟩ := exists_unpack_eq .positive positive' finite'
    simp [unpack_zero, unpacked', UnpackedFloat.compare, positive']
  · obtain ⟨_, _, _, unpacked, -⟩ := exists_unpack_eq .positive positive finite
    simp [unpack_zero, unpacked, UnpackedFloat.compare]
  · obtain ⟨mantissa, exponent, nonzero, unpacked, stands⟩ :=
      exists_unpack_eq .positive positive finite
    obtain ⟨mantissa', exponent', nonzero', unpacked', stands'⟩ :=
      exists_unpack_eq .positive positive' finite'
    rw [stands.lt_iff stands', unpacked, unpacked']
    simp [UnpackedFloat.compare, Ordering.then_eq_lt, Int.compare_eq_lt, Nat.compare_eq_lt]

-----------------------------------------------------------------------------------------
-- Rounding to a value other than zero
-----------------------------------------------------------------------------------------

/-- The value is zero with some sign. -/
def IsZero (value : UnpackedFloat) : Prop :=
  ∃ sign, value = .zero sign

/-- The mantissa is short enough, and the exponent large enough, for a binary64 value. -/
def Fits : UnpackedFloat → Prop
  | .finite _ mantissa exponent _ => mantissa < 2 ^ 53 ∧ -1074 ≤ exponent
  | _ => True

theorem fits_unpack (x : Float) : Fits (unpack .binary64 x.toBits.toBitVec) := by
  cases unpacked : unpack .binary64 x.toBits.toBitVec with
  | notANumber | infinity | zero => trivial
  | finite sign mantissa exponent positive =>
      have finite : index x < infinity := by
        rw [← isFinite_iff]
        change (unpack .binary64 x.toBits.toBitVec).isFinite = true
        rw [unpacked]
        rfl
      rw [toBitVec_toBits] at unpacked
      rcases Nat.eq_zero_or_pos (index x) with none | some
      · rw [none, unpack_zero] at unpacked
        cases unpacked
      · obtain ⟨_, _, _, unpacked', stands⟩ :=
          exists_unpack_eq (signOf (isNegative x)) some finite
        cases unpacked.symm.trans unpacked'
        exact ⟨stands.short, stands.least⟩

/-- A value other than zero is packed at an index other than that of zero. -/
theorem exists_pack_eq (sign : UnpackedFloat.Sign) {mantissa : Nat} {exponent : Int}
    (positive : 0 < mantissa) (short : mantissa < 2 ^ 53) (least : -1074 ≤ exponent)
    : ∃ index,
        0 < index
        ∧ index ≤ infinity
        ∧ pack .binary64 (.finite sign mantissa exponent positive) = bits sign index := by
  rw [pack_finite]
  split
  · exact ⟨infinity, by decide, Nat.le_refl _, rfl⟩
  · rename_i bounded
    have nonzero : mantissa ≠ 0 := Nat.ne_of_gt positive
    split
    · have fraction : mantissa % binade < binade := Nat.mod_lt _ binade_pos
      generalize biased : (exponent + 1075).toNat = power at bounded
      refine ⟨power * binade + mantissa % binade, ?_, ?_, ?_⟩
      · unfold binade at *
        omega
      · unfold infinity binade at *
        omega
      · have cut : BitVec.ofNat 52 mantissa = .ofNat 52 (mantissa % binade) := by
          apply BitVec.eq_of_toNat_eq
          rw [BitVec.toNat_ofNat, BitVec.toNat_ofNat]
          exact (Nat.mod_mod _ _).symm
        rw [bits, cut, Nat.mul_comm, Nat.mul_add_div binade_pos, Nat.div_eq_of_lt fraction,
          Nat.add_zero, Nat.mul_add_mod, Nat.mod_mod]
    · rename_i notFull
      have low : mantissa < binade := by
        have bound : mantissa.log2 < 53 := (Nat.log2_lt nonzero).mpr short
        have bound' : mantissa.log2 < 52 := by omega
        exact (Nat.log2_lt nonzero).mp bound'
      refine ⟨mantissa, positive, ?_, ?_⟩
      · exact Nat.le_of_lt (Nat.lt_trans low (by decide))
      · rw [bits, Nat.div_eq_of_lt low, Nat.mod_eq_of_lt low]

/-- Packing turns nothing else into zero. -/
theorem isZero_unpack_pack_iff {value : UnpackedFloat} (fits : Fits value)
    : IsZero (unpack .binary64 (pack .binary64 value)) ↔ IsZero value := by
  cases value with
  | notANumber =>
      have kept : unpack .binary64 (pack .binary64 .notANumber) = .notANumber := rfl
      rw [kept]
  | infinity sign => rw [pack_infinity, unpack_infinity]
  | zero sign => rw [pack_zero, unpack_zero]
  | finite sign mantissa exponent positive =>
      obtain ⟨index, some, number, packed⟩ := exists_pack_eq sign positive fits.1 fits.2
      rw [packed]
      rcases Nat.lt_or_eq_of_le number with finite | rfl
      · obtain ⟨_, _, _, unpacked, -⟩ := exists_unpack_eq sign some finite
        simp [unpacked, IsZero]
      · simp [unpack_infinity, IsZero]

theorem targetExponent_eq (total : Int)
    : Format.binary64.targetExponent total = max (total - 53) (-1074) :=
  rfl

/-- A mantissa is shifted to its place bit by bit. -/
theorem shiftToTargetExponent_eq (mantissa : Nat) (exponent : Int)
    : let target := Format.binary64.targetExponent (Float.Model.totalExponent mantissa exponent)
      let shift := (target - exponent).toNat
      let shifted := shiftToTargetExponent .binary64 mantissa exponent .exact
      shifted.1.mantissa = mantissa / 2 ^ shift ∧ shifted.2 = exponent + shift :=
  ⟨mantissa_shiftRight _ _, rfl⟩

/-- What is left of a mantissa which is shifted to its place has at least one bit and at most 53.
-/
theorem shiftToTargetExponent_bounds {mantissa : Nat} (positive : 0 < mantissa) {exponent : Int}
    (least : -1074 ≤ exponent)
    : let shifted := shiftToTargetExponent .binary64 mantissa exponent .exact
      0 < shifted.1.mantissa ∧ shifted.1.mantissa < 2 ^ 53 ∧ -1074 ≤ shifted.2 := by
  have nonzero : mantissa ≠ 0 := Nat.ne_of_gt positive
  obtain ⟨left, raised⟩ := shiftToTargetExponent_eq mantissa exponent
  simp only [left, raised, targetExponent_eq, Float.Model.totalExponent]
  obtain ⟨low, high⟩ := (Nat.log2_eq_iff nonzero).mp rfl
  generalize mantissa.log2 = digits at low high
  generalize shift : (max ((digits : Int) + 1 + exponent - 53) (-1074) - exponent).toNat = count
  refine ⟨?_, ?_, by omega⟩
  · rw [Nat.div_pos_iff]
    refine ⟨Nat.two_pow_pos _, Nat.le_trans ?_ low⟩
    exact Nat.pow_le_pow_right two_pos (by omega)
  · rw [Nat.div_lt_iff_lt_mul (Nat.two_pow_pos _), ← Nat.pow_add]
    exact Nat.lt_of_lt_of_le high (Nat.pow_le_pow_right two_pos (by omega))

theorem le_roundedMantissa (extended : ExtendedMantissa)
    : extended.mantissa ≤ extended.roundedMantissa := by
  unfold ExtendedMantissa.roundedMantissa
  cases extended.accuracy with
  | exact => exact Nat.le_refl _
  | inexact place =>
      cases place
      · exact Nat.le_refl _
      · exact Nat.le_add_right _ _
      · exact Nat.le_succ _

section

variable (sign : UnpackedFloat.Sign) {mantissa : Nat} (positive : 0 < mantissa) {exponent : Int}
  (least : -1074 ≤ exponent)
include positive least

/-- The mantissa is cut and rounded, and cut again if it has become too long. Something is left of
it each time.
-/
theorem exists_roundWithAccuracy_eq
    : ∃ mantissa' exponent' positive',
        roundWithAccuracy .binary64 sign mantissa exponent .exact
          = .finite sign mantissa' exponent' positive'
        ∧ mantissa' < 2 ^ 53
        ∧ -1074 ≤ exponent' := by
  obtain ⟨some, -, least'⟩ := shiftToTargetExponent_bounds positive least
  have rounded := Nat.lt_of_lt_of_le some (le_roundedMantissa _)
  obtain ⟨left, short, least''⟩ := shiftToTargetExponent_bounds rounded least'
  exact ⟨_, _, left, dif_neg (Nat.ne_of_gt left), short, least''⟩

/-- A multiple of the smallest magnitude is not rounded to zero. -/
theorem exists_round_eq
    : ∃ mantissa' exponent' positive',
        round .binary64 sign mantissa exponent = .finite sign mantissa' exponent' positive'
        ∧ mantissa' < 2 ^ 53
        ∧ -1074 ≤ exponent' := by
  unfold UnpackedFloat.round
  apply exists_roundWithAccuracy_eq
  · simp only [Nat.shiftLeft_eq]
    exact Nat.mul_pos positive (Nat.two_pow_pos _)
  · -- The exponent is lowered to its place, which is not below the least.
    simp only [targetExponent_eq]
    omega

end

-----------------------------------------------------------------------------------------
-- Differences
-----------------------------------------------------------------------------------------

/-- Only zero is rounded to zero. -/
theorem normalize_spec {mantissa exponent : Int} (least : -1074 ≤ exponent)
    (sign : UnpackedFloat.Sign)
    : Fits (normalize .binary64 mantissa exponent sign)
      ∧ (IsZero (normalize .binary64 mantissa exponent sign) ↔ mantissa = 0) := by
  have rounded (sign' : UnpackedFloat.Sign) {count : Nat} (positive : 0 < count)
      : Fits (round .binary64 sign' count exponent)
        ∧ ¬IsZero (round .binary64 sign' count exponent) := by
    obtain ⟨_, _, _, equal, short, least'⟩ := exists_round_eq sign' positive least
    rw [equal]
    exact ⟨⟨short, least'⟩, by simp [IsZero]⟩
  unfold UnpackedFloat.normalize
  split
  · rename_i negative
    have below := Int.compare_eq_lt.mp negative
    have result := rounded .negative (by omega : 0 < (-mantissa).toNat)
    exact ⟨result.1, iff_of_false result.2 (by omega)⟩
  · rename_i none
    exact ⟨trivial, iff_of_true ⟨_, rfl⟩ (Int.compare_eq_eq.mp none)⟩
  · rename_i positive
    have above := Int.compare_eq_gt.mp positive
    have result := rounded .positive (by omega : 0 < mantissa.toNat)
    exact ⟨result.1, iff_of_false result.2 (by omega)⟩

/-- The number which is taken apart. -/
def unpackedNumber? : UnpackedFloat → Option ℚ
  | .zero _ => some 0
  | .finite sign mantissa exponent _ => some (sign.apply mantissa * 2 ^ exponent)
  | _ => none

theorem number?_eq_unpackedNumber? (x : Float)
    : number? x = unpackedNumber? (unpack .binary64 x.toBits.toBitVec) := by
  rw [number?]
  generalize unpack .binary64 x.toBits.toBitVec = value
  cases value with
  | notANumber | infinity | zero => rfl
  | finite sign => cases sign <;> simp [unpackedNumber?, UnpackedFloat.Sign.apply]

theorem isZero_iff (value : UnpackedFloat) : IsZero value ↔ unpackedNumber? value = some 0 := by
  cases value with
  | notANumber | infinity | zero => simp [IsZero, unpackedNumber?]
  | finite sign mantissa exponent positive =>
      cases sign
        <;> simp [IsZero, unpackedNumber?, UnpackedFloat.Sign.apply, zpow_ne_zero, positive.ne']

/-- Two numbers with one exponent are their mantissas, whichever exponent they had. -/
theorem cast_decreaseExponent (sign : UnpackedFloat.Sign) (mantissa : Nat) {exponent target : Int}
    (least : target ≤ exponent)
    : (sign.apply (decreaseExponent mantissa exponent target).1 : ℚ) * 2 ^ target
      = sign.apply mantissa * 2 ^ exponent := by
  have power : (2 : ℚ) ^ exponent = 2 ^ (exponent - target).toNat * 2 ^ target := by
    rw [← zpow_natCast, ← zpow_add₀ two_ne_zero]
    congr 1
    omega
  rw [power, ← mul_assoc]
  cases sign <;> simp [decreaseExponent, UnpackedFloat.Sign.apply, Nat.shiftLeft_eq]

/-- The two are the same number. -/
def SameNumber (first second : UnpackedFloat) : Prop :=
  ∃ number, unpackedNumber? first = some number ∧ unpackedNumber? second = some number

theorem sameNumber_zero_left_iff (sign : UnpackedFloat.Sign) (second : UnpackedFloat)
    : SameNumber (.zero sign) second ↔ IsZero second := by
  simp [SameNumber, isZero_iff, unpackedNumber?]

theorem sameNumber_zero_right_iff (first : UnpackedFloat) (sign : UnpackedFloat.Sign)
    : SameNumber first (.zero sign) ↔ IsZero first := by
  simp [SameNumber, isZero_iff, unpackedNumber?]

theorem sameNumber_finite_iff (sign sign' : UnpackedFloat.Sign) {mantissa mantissa' : Nat}
    {exponent exponent' : Int} (positive : 0 < mantissa) (positive' : 0 < mantissa')
    : let target := min exponent exponent'
      SameNumber (.finite sign mantissa exponent positive)
          (.finite sign' mantissa' exponent' positive')
        ↔ sign.apply (decreaseExponent mantissa exponent target).1
              - sign'.apply (decreaseExponent mantissa' exponent' target).1
            = 0 := by
  intro target
  have number := cast_decreaseExponent sign mantissa (min_le_left exponent exponent')
  have number' := cast_decreaseExponent sign' mantissa' (min_le_right exponent exponent')
  have power : (2 : ℚ) ^ target ≠ 0 := zpow_ne_zero _ two_ne_zero
  simp only [SameNumber, unpackedNumber?, ← number, ← number', Option.some_inj, exists_eq_left']
  rw [mul_left_inj' power, Int.cast_inj, sub_eq_zero, eq_comm]

variable {first second : UnpackedFloat}

/-- A difference is zero if the two are the same number, and only then. -/
theorem sub_spec (fits : Fits first) (fits' : Fits second)
    : Fits (sub .binary64 first second)
      ∧ (IsZero (sub .binary64 first second) ↔ SameNumber first second) := by
  cases first with
  | notANumber => simp [UnpackedFloat.sub, Fits, IsZero, SameNumber, unpackedNumber?]
  | infinity sign =>
      have never : ¬SameNumber (.infinity sign) second := by simp [SameNumber, unpackedNumber?]
      cases second with
      | notANumber | zero | finite =>
          exact ⟨trivial, iff_of_false (by simp [UnpackedFloat.sub, IsZero]) never⟩
      | infinity sign' =>
          cases sign
            <;> cases sign'
            <;> exact ⟨trivial, iff_of_false (by rintro ⟨_, ⟨⟩⟩) never⟩
  | zero sign =>
      rw [sameNumber_zero_left_iff]
      cases second with
      | notANumber | infinity => exact ⟨trivial, by simp [UnpackedFloat.sub, IsZero]⟩
      | finite => exact ⟨fits', by simp [UnpackedFloat.sub, IsZero]⟩
      | zero sign' =>
          cases sign <;> cases sign' <;> exact ⟨trivial, iff_of_true ⟨_, rfl⟩ ⟨_, rfl⟩⟩
  | finite sign mantissa exponent positive =>
      cases second with
      | notANumber | infinity =>
          exact ⟨trivial, by simp [UnpackedFloat.sub, IsZero, SameNumber, unpackedNumber?]⟩
      | zero sign' =>
          rw [sameNumber_zero_right_iff]
          exact ⟨fits, Iff.rfl⟩
      | finite sign' mantissa' exponent' positive' =>
          obtain ⟨fits'', zero⟩ := normalize_spec (le_min fits.2 fits'.2) .positive
          exact ⟨fits'', zero.trans (sameNumber_finite_iff sign sign' positive positive').symm⟩

variable {x y : Float}

theorem beq_zero_iff : (x == 0) = true ↔ IsZero (unpack .binary64 x.toBits.toBitVec) := by
  change UnpackedFloat.beq (unpack .binary64 x.toBits.toBitVec) (.zero .positive) = true ↔ _
  cases unpack .binary64 x.toBits.toBitVec with
  | notANumber | zero => simp [UnpackedFloat.beq, UnpackedFloat.compare, IsZero]
  | infinity sign | finite sign =>
      cases sign <;> simp [UnpackedFloat.beq, UnpackedFloat.compare, IsZero]

/-- A difference of values is zero exactly if they are the same number. -/
theorem sub_beq_zero_iff
    : (x - y == 0) = true ↔ ∃ number, number? x = some number ∧ number? y = some number := by
  obtain ⟨fits, same⟩ := sub_spec (fits_unpack x) (fits_unpack y)
  simp only [number?_eq_unpackedNumber?]
  rw [beq_zero_iff]
  exact (isZero_unpack_pack_iff fits).trans same

-----------------------------------------------------------------------------------------
-- Whole parts
-----------------------------------------------------------------------------------------

theorem mul_two_pow_div (mantissa exponent more : Nat)
    : mantissa * 2 ^ exponent / 2 ^ (exponent + more) = mantissa / 2 ^ more := by
  rw [Nat.pow_add, Nat.mul_comm (2 ^ exponent), Nat.mul_div_mul_right _ _ (Nat.two_pow_pos _)]

/-- A short mantissa at any power of two is a magnitude. -/
theorem ticks_lastIndex_of_short {mantissa : Nat} (short : mantissa < 2 ^ 53) (exponent : Nat)
    : ticks (lastIndex (mantissa * 2 ^ exponent)) = mantissa * 2 ^ exponent := by
  rcases Nat.lt_or_ge (mantissa * 2 ^ exponent) binade with low | full
  · rw [lastIndex_of_lt low, ticks_of_lt low]
  · obtain ⟨cut, last, least, most⟩ := exists_lastIndex_eq full
    rw [last, ticks_mantissa cut least (Nat.le_of_lt most)]
    -- No more than the power of two is cut off, or else too little would be left.
    have bounded : cut ≤ exponent := by
      by_contra above
      obtain ⟨more, rfl⟩ := Nat.exists_eq_add_of_lt (Nat.lt_of_not_le above)
      have half : mantissa / 2 ^ (more + 1) ≤ mantissa / 2 :=
        Nat.div_le_div_left (Nat.le_self_pow (Nat.succ_ne_zero more) 2) two_pos
      rw [Nat.add_assoc, mul_two_pow_div] at least
      unfold binade at least
      omega
    exact Nat.div_mul_cancel (Nat.dvd_mul_left_of_dvd (Nat.pow_dvd_pow 2 bounded) _)

/-- What is left of a magnitude without what is behind the point is a magnitude. -/
theorem ticks_lastIndex_whole (index : Nat)
    : ticks (lastIndex (ticks index / ticksPerUnit * ticksPerUnit))
      = ticks index / ticksPerUnit * ticksPerUnit := by
  obtain ⟨exponent, mantissa, short, -, here, -⟩ := exists_mantissa index
  obtain ⟨point, unit⟩ : ∃ point, ticksPerUnit = 2 ^ point := by
    rw [ticksPerUnit]
    generalize 1074 = point
    exact ⟨point, Nat.one_shiftLeft point⟩
  rw [here, unit]
  rcases Nat.le_total point exponent with whole | fractional
  · rw [Nat.div_mul_cancel (Nat.dvd_mul_left_of_dvd (Nat.pow_dvd_pow 2 whole) _)]
    exact ticks_lastIndex_of_short short exponent
  · obtain ⟨more, rfl⟩ := Nat.exists_eq_add_of_le fractional
    rw [mul_two_pow_div]
    exact ticks_lastIndex_of_short (Nat.lt_of_le_of_lt (Nat.div_le_self _ _) short) _

/-- The whole part of a finite value is the integer next to it towards zero. -/
theorem number?_truncate (finite : index x < infinity)
    : let whole := ticks (index x) / ticksPerUnit
      number? (truncate x) = some ((if isNegative x then -whole else whole : Int) : ℚ) := by
  intro whole
  let last := lastIndex (whole * ticksPerUnit)
  have exact : ticks last = whole * ticksPerUnit := ticks_lastIndex_whole (index x)
  have below : last ≤ index x := by
    rw [← ticks_strictMono.le_iff_le, exact]
    exact Nat.div_mul_le_self _ _
  have finite' : last < infinity := Nat.lt_of_le_of_lt below finite
  have cut : truncate x = ofIndex (isNegative x) last := by
    rw [truncate, view, if_pos finite]
  have sign := @isNegative_ofIndex (isNegative x) last finite'.le
  have place := index_ofIndex (isNegative x) finite'.le
  rw [← cut] at sign place
  rw [← sign]
  apply number?_eq_natAbs
  · rwa [place]
  · rw [place]
    exact magnitude_eq_natCast_iff.mpr exact

/-- There is nothing behind the point of the integers, and of nothing else. -/
theorem fraction_beq_zero_iff
    : (fraction x == 0) = true ↔ ∃ n : Int, number? x = some (n : ℚ) := by
  rw [fraction, sub_beq_zero_iff]
  constructor
  · rintro ⟨number, exact, exact'⟩
    rw [number?_truncate (finite_of_number? exact)] at exact'
    exact ⟨_, exact.trans exact'.symm⟩
  · rintro ⟨n, exact⟩
    have whole : ticks (index x) / ticksPerUnit = n.natAbs := by
      rw [magnitude_eq_natCast_iff.mp (magnitude_eq_natAbs exact)]
      exact Nat.mul_div_cancel _ (Nat.cast_pos.mp ticksPerUnit_pos)
    refine ⟨n, exact, ?_⟩
    rw [number?_truncate (finite_of_number? exact), whole, ← eq_signed_natAbs exact]

/-- An integer is below an integer bound exactly if its magnitude is. -/
theorem abs_lt_iff {n : Int} {bound high : Nat} (exact : number? x = some (n : ℚ))
    (finite : high < infinity) (size : ticks high = bound * ticksPerUnit)
    : x.abs < ofIndex false high ↔ n.natAbs < bound := by
  have finite' := finite_of_number? exact
  have count := magnitude_eq_natCast_iff.mp (magnitude_eq_natAbs exact)
  rw [abs_eq_ofIndex finite'.le, ofIndex_lt_iff finite' finite, ← ticks_strictMono.lt_iff_lt,
    size, count]
  exact Nat.mul_lt_mul_right (Nat.cast_pos.mp ticksPerUnit_pos)

end Formulary.Binary64
