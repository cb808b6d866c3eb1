import Mathlib
import Formulary.Binary64

/-! A binary64 value which is a number is its sign and its index. Taking a value apart and
putting it together again keeps both, and a change of sign changes nothing else.
-/

namespace Formulary.Binary64

open Float.Model (Format UnpackedFloat)
open Float.Model.UnpackedFloat

/-- The value with another sign, as a function of its sign. -/
def mapSign (change : UnpackedFloat.Sign → UnpackedFloat.Sign) : UnpackedFloat → UnpackedFloat
  | .notANumber => .notANumber
  | .infinity sign => .infinity (change sign)
  | .zero sign => .zero (change sign)
  | .finite sign mantissa exponent positive =>
      .finite (change sign) mantissa exponent positive

/-- The bits of a value with the sign and the index. -/
def bits (sign : UnpackedFloat.Sign) (index : Nat) : BitVec Format.binary64.numBits :=
  packComponents .binary64 sign (.ofNat 11 (index / binade)) (.ofNat 52 (index % binade))

theorem binade_eq : binade = 2 ^ 52 := rfl

theorem signBit_eq : signBit = 2 ^ 63 := rfl

theorem index_lt_signBit (x : Float) : index x < signBit :=
  Nat.mod_lt _ signBit_pos

theorem lt_signBit_of_le {index : Nat} (number : index ≤ infinity) : index < signBit :=
  Nat.lt_of_le_of_lt number infinity_lt_signBit

theorem div_binade_lt {index : Nat} (finite : index < infinity) : index / binade < 2047 := by
  apply Nat.div_lt_of_lt_mul
  rw [Nat.mul_comm]
  exact finite

section Packing

variable (sign : UnpackedFloat.Sign) {index : Nat}

/-- The bits are the index with the sign bit in front. -/
theorem toNat_bits (small : index < signBit)
    : (bits sign index).toNat = sign.toBitVec.toNat * signBit + index := by
  have fraction : index % binade < 2 ^ 52 := Nat.mod_lt _ binade_pos
  have exponent : index / binade < 2 ^ 11 := by
    rw [signBit_eq] at small
    rw [binade_eq]
    omega
  simp only [bits, packComponents, BitVec.toNat_append, BitVec.toNat_ofNat,
    Nat.mod_eq_of_lt fraction, Nat.mod_eq_of_lt exponent]
  -- The three fields do not overlap, so joining them adds them up.
  rw [← Nat.shiftLeft_add_eq_or_of_lt fraction, ← Nat.shiftLeft_add_eq_or_of_lt exponent]
  simp only [Nat.shiftLeft_eq, binade_eq, signBit_eq]
  omega

theorem ofBitVec_unpackSign_bits (small : index < signBit)
    : UnpackedFloat.Sign.ofBitVec (unpackSign (bits sign index)) = sign := by
  have top : unpackSign (bits sign index) = sign.toBitVec := by
    apply BitVec.eq_of_toNat_eq
    have bit : sign.toBitVec.toNat < 2 := sign.toBitVec.isLt
    have split : (sign.toBitVec.toNat * signBit + index) / signBit = sign.toBitVec.toNat := by
      rw [Nat.mul_comm, Nat.mul_add_div signBit_pos, Nat.div_eq_of_lt small, Nat.add_zero]
    simp only [unpackSign, BitVec.extractLsb, BitVec.toNat_cast, BitVec.extractLsb'_toNat,
      toNat_bits sign small, Nat.shiftRight_eq_div_pow]
    exact (congrArg (· % 2) split).trans (Nat.mod_eq_of_lt bit)
  rw [top]
  cases sign <;> rfl

/-- The exponent and the fraction of the bits are those of the index. -/
theorem unpackExponent_bits (index : Nat)
    : unpackExponent (bits sign index) = .ofNat 11 (index / binade) :=
  unpackExponent_packComponents

theorem unpackMantissa_bits (index : Nat)
    : unpackMantissa (bits sign index) = .ofNat 52 (index % binade) :=
  unpackMantissa_packComponents

theorem unpack_infinity : unpack .binary64 (bits sign infinity) = .infinity sign := by
  cases sign <;> rfl

theorem unpack_zero : unpack .binary64 (bits sign 0) = .zero sign := by
  cases sign <;> rfl

/-- Below the first full binade the index is the mantissa. -/
theorem unpack_subnormal (positive : 0 < index) (low : index < binade)
    : unpack .binary64 (bits sign index) = .finite sign index (-1074) positive := by
  have small : index < signBit := Nat.lt_trans low (by decide)
  have exponent : index / binade = 0 := Nat.div_eq_of_lt low
  have fraction : (BitVec.ofNat 52 (index % binade)).toNat = index := by
    rw [Nat.mod_eq_of_lt low, BitVec.toNat_ofNat]
    exact Nat.mod_eq_of_lt low
  have nonzero : BitVec.ofNat 52 (index % binade) ≠ 0#52 := by
    intro zero
    rw [zero] at fraction
    exact Nat.ne_of_gt positive fraction.symm
  unfold unpack
  simp only [unpackExponent_bits, unpackMantissa_bits, ofBitVec_unpackSign_bits sign small,
    exponent]
  rw [if_neg (by decide), if_pos trivial, dif_neg nonzero]
  simp only [fraction]
  rfl

/-- In a full binade the mantissa has one more bit than the fraction. -/
theorem unpack_normal (full : binade ≤ index) (finite : index < infinity)
    : unpack .binary64 (bits sign index)
      = .finite sign (binade + index % binade) ((index / binade : Nat) - 1075)
          (Nat.add_pos_left binade_pos _) := by
  have small := lt_signBit_of_le (Nat.le_of_lt finite)
  have positive : 0 < index / binade := Nat.div_pos full binade_pos
  have below := div_binade_lt finite
  have exponent : (BitVec.ofNat 11 (index / binade)).toNat = index / binade := by
    rw [BitVec.toNat_ofNat, Nat.mod_eq_of_lt (by omega)]
  have notTop : BitVec.ofNat 11 (index / binade) ≠ -1#11 := by
    intro top
    rw [top] at exponent
    exact Nat.ne_of_lt below exponent.symm
  have notBottom : BitVec.ofNat 11 (index / binade) ≠ 0#11 := by
    intro bottom
    rw [bottom] at exponent
    exact Nat.ne_of_gt positive exponent.symm
  have fraction : index % binade < 2 ^ 52 := Nat.mod_lt _ binade_pos
  -- The leading bit of the mantissa has no place among the bits.
  have mantissa
      : (1#1 ++ BitVec.ofNat 52 (index % binade)).toNat = binade + index % binade := by
    rw [BitVec.toNat_append, ← Nat.shiftLeft_add_eq_or_of_lt (BitVec.isLt _),
      BitVec.toNat_ofNat (index % binade), Nat.mod_eq_of_lt fraction]
    rfl
  unfold unpack
  simp only [unpackExponent_bits, unpackMantissa_bits, ofBitVec_unpackSign_bits sign small]
  rw [if_neg notTop, if_neg notBottom]
  simp only [mantissa, exponent]
  rfl

theorem pack_infinity : pack .binary64 (.infinity sign) = bits sign infinity := by
  cases sign <;> rfl

theorem pack_zero : pack .binary64 (.zero sign) = bits sign 0 := by
  cases sign <;> rfl

theorem pack_finite (mantissa : Nat) (exponent : Int) (positive : 0 < mantissa)
    : pack .binary64 (.finite sign mantissa exponent positive)
      = if 2048 ≤ (exponent + 1075).toNat + 1 then bits sign infinity
        else if mantissa.log2 + 1 = 53 then
          packComponents .binary64 sign (.ofNat 11 (exponent + 1075).toNat) (.ofNat 52 mantissa)
        else packComponents .binary64 sign (.ofNat 11 0) (.ofNat 52 mantissa) := by
  have biased : (exponent + (1023 : Nat) + (52 : Nat) : Int) = exponent + 1075 := by omega
  rw [← biased]
  rfl

theorem pack_subnormal (positive : 0 < index)
    (low : index < binade)
    : pack .binary64 (.finite sign index (-1074) positive) = bits sign index := by
  have short : ¬index.log2 + 1 = 53 := by
    intro long
    have : index.log2 < 52 := (Nat.log2_lt (by omega)).mpr low
    omega
  rw [pack_finite, if_neg (by decide), if_neg short, bits, Nat.div_eq_of_lt low,
    Nat.mod_eq_of_lt low]

theorem pack_normal (finite : index < infinity)
    (positive : 0 < binade + index % binade)
    : pack .binary64
        (.finite sign (binade + index % binade) ((index / binade : Nat) - 1075) positive)
      = bits sign index := by
  have below := div_binade_lt finite
  have fraction : index % binade < binade := Nat.mod_lt _ binade_pos
  have long : (binade + index % binade).log2 + 1 = 53 := by
    have top : (binade + index % binade).log2 = 52 := by
      rw [Nat.log2_eq_iff (by omega)]
      rw [binade_eq] at fraction ⊢
      omega
    rw [top]
  have exponent : ((index / binade : Nat) - 1075 + 1075 : Int).toNat = index / binade := by
    rw [Int.sub_add_cancel, Int.toNat_natCast]
  -- Packing cuts the leading bit off again.
  have mantissa : BitVec.ofNat 52 (binade + index % binade) = .ofNat 52 (index % binade) := by
    apply BitVec.eq_of_toNat_eq
    rw [BitVec.toNat_ofNat, BitVec.toNat_ofNat]
    exact Nat.add_mod_left _ _
  rw [pack_finite, exponent, if_neg (by omega), if_pos long, mantissa, bits]

/-- Every index of a number is of one of the four kinds. -/
theorem pack_mapSign_unpack (change : UnpackedFloat.Sign → UnpackedFloat.Sign)
    (number : index ≤ infinity)
    : pack .binary64 (mapSign change (unpack .binary64 (bits sign index)))
      = bits (change sign) index := by
  rcases Nat.lt_or_eq_of_le number with finite | rfl
  · rcases Nat.lt_or_ge index binade with low | full
    · rcases Nat.eq_zero_or_pos index with rfl | positive
      · rw [unpack_zero, mapSign, pack_zero]
      · rw [unpack_subnormal sign positive low, mapSign, pack_subnormal _ positive low]
    · rw [unpack_normal sign full finite, mapSign, pack_normal _ finite]
  · rw [unpack_infinity, mapSign, pack_infinity]

/-- From infinity on there are no finite values. -/
theorem isFinite_unpack_iff (small : index < signBit)
    : (unpack .binary64 (bits sign index)).isFinite = true ↔ index < infinity := by
  rcases Nat.lt_or_ge index infinity with finite | beyond
  · rcases Nat.lt_or_ge index binade with low | full
    · rcases Nat.eq_zero_or_pos index with rfl | positive
      · simp [unpack_zero, isFinite, finite]
      · simp [unpack_subnormal sign positive low, isFinite, finite]
    · simp [unpack_normal sign full finite, isFinite, finite]
  · have top : index / binade = 2047 := by
      rw [signBit_eq] at small
      rw [infinity, binade_eq] at beyond
      rw [binade_eq]
      omega
    have exponent : unpackExponent (bits sign index) = -1#11 := by
      rw [unpackExponent_bits, top]
      rfl
    unfold unpack
    simp only [exponent, if_true]
    split <;> simp [isFinite, Nat.not_lt.mpr beyond]

end Packing

/-- The sign which the minus sign is, if there is one. -/
def signOf (negative : Bool) : UnpackedFloat.Sign :=
  if negative then .negative else .positive

theorem toNat_bits_signOf (negative : Bool) {index : Nat} (small : index < signBit)
    : (bits (signOf negative) index).toNat = if negative then signBit + index else index := by
  rw [toNat_bits _ small]
  cases negative
  · exact Nat.zero_add _
  · exact congrArg (· + index) (Nat.one_mul _)

/-- The bits of a value are those of its sign and index, also if it is not a number. -/
theorem toBitVec_toBits (x : Float)
    : x.toBits.toBitVec = bits (signOf (isNegative x)) (index x) := by
  have width : x.toBits.toNat < 2 ^ 64 := x.toBits.toBitVec.isLt
  have small := index_lt_signBit x
  apply BitVec.eq_of_toNat_eq
  rw [toNat_bits_signOf _ small]
  simp only [isNegative, decide_eq_true_eq, index]
  rw [signBit_eq]
  split
  · change x.toBits.toNat = _
    omega
  · change x.toBits.toNat = _
    omega

theorem toBitVec_word (negative : Bool) {index : Nat} (small : index < signBit)
    : (UInt64.ofNat (if negative then signBit + index else index)).toBitVec
      = bits (signOf negative) index := by
  apply BitVec.eq_of_toNat_eq
  rw [toNat_bits_signOf _ small]
  change (UInt64.ofNat _).toNat = _
  rw [UInt64.toNat_ofNat', Nat.mod_eq_of_lt]
  rw [signBit_eq] at *
  split <;> omega

/-- Values with the same bits are the same. -/
theorem eq_of_toBitVec_eq {x y : Float} (same : x.toBits.toBitVec = y.toBits.toBitVec)
    : x = y := by
  obtain ⟨⟨⟨left⟩, _⟩⟩ := x
  obtain ⟨⟨⟨right⟩, _⟩⟩ := y
  cases same
  rfl

section Values

variable {negative : Bool} {index : Nat} (number : index ≤ infinity)
include number

/-- Nothing is lost in a value which is a number. -/
theorem toBitVec_ofIndex
    : (ofIndex negative index).toBits.toBitVec = bits (signOf negative) index := by
  have same (value : UnpackedFloat) : mapSign id value = value := by cases value <;> rfl
  have kept := pack_mapSign_unpack (signOf negative) id number
  rw [same, ← toBitVec_word negative (lt_signBit_of_le number)] at kept
  rw [← id_eq (signOf negative)]
  exact kept

theorem toNat_ofIndex
    : (ofIndex negative index).toBits.toNat = if negative then signBit + index else index := by
  rw [← toNat_bits_signOf negative (lt_signBit_of_le number), ← toBitVec_ofIndex number]
  rfl

theorem isNegative_ofIndex : isNegative (ofIndex negative index) = negative := by
  have small := lt_signBit_of_le number
  rw [isNegative, toNat_ofIndex number]
  cases negative <;> simp [small]

/-- An operation which changes the sign changes nothing else. -/
theorem ofIndex_of_mapSign (operation : Float → Float)
    (change : UnpackedFloat.Sign → UnpackedFloat.Sign) {changed : Bool}
    (sign : change (signOf negative) = signOf changed)
    (model
      : ∀ x,
          (operation x).toBits.toBitVec
            = pack .binary64 (mapSign change (unpack .binary64 x.toBits.toBitVec)))
    : operation (ofIndex negative index) = ofIndex changed index := by
  apply eq_of_toBitVec_eq
  rw [model, toBitVec_ofIndex number, pack_mapSign_unpack _ _ number, sign,
    toBitVec_ofIndex number]

theorem neg_ofIndex : -ofIndex negative index = ofIndex (!negative) index := by
  have negation (value : UnpackedFloat) : value.neg = mapSign (- ·) value := by
    cases value <;> rfl
  apply ofIndex_of_mapSign number (- ·) (- ·)
  · cases negative <;> rfl
  · intro x
    rw [← negation]
    rfl

theorem abs_ofIndex : (ofIndex negative index).abs = ofIndex false index := by
  have absolute (value : UnpackedFloat) : value.abs = mapSign (fun _ => .positive) value := by
    cases value <;> rfl
  apply ofIndex_of_mapSign number Float.abs fun _ => .positive
  · rfl
  · intro x
    rw [← absolute]
    rfl

end Values

/-- A value which is a number is the one with its sign and index. -/
theorem ofIndex_index {x : Float} (number : index x ≤ infinity)
    : ofIndex (isNegative x) (index x) = x := by
  apply eq_of_toBitVec_eq
  rw [toBitVec_ofIndex number, toBitVec_toBits]

/-- The absolute value has the index without the minus sign. -/
theorem abs_eq_ofIndex {x : Float} (number : index x ≤ infinity)
    : x.abs = ofIndex false (index x) :=
  calc
    x.abs = (ofIndex (isNegative x) (index x)).abs := by rw [ofIndex_index number]
    _ = ofIndex false (index x) := abs_ofIndex number

theorem isFinite_iff (x : Float) : x.isFinite = true ↔ index x < infinity := by
  have small := index_lt_signBit x
  rw [← isFinite_unpack_iff (signOf (isNegative x)) small, ← toBitVec_toBits]
  rfl

end Formulary.Binary64
