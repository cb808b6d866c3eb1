import Formulary.Proofs.Binary64.SignedMagnitudes
import Formulary.Proofs.Decimal.WrittenNumerals

/-! Literals as text. A finite number is written as a numeral, after a minus sign if it is
negative, and the numeral denotes the number without its sign.
-/

namespace Formulary

namespace Number

/-- The number is neither infinite nor NaN. -/
def isFinite : Number → Bool
  | integer _ => true
  | real value => value.isFinite

/-- The number carries a minus sign. -/
def isNegative : Number → Bool
  | integer value => value < 0
  | real value => Binary64.isNegative value

/-- The number without its sign. The least integer is too large for an integer then, and
becomes real.
-/
def magnitude : Number → Number
  | integer value =>
      if value = Int64.minValue then real (Binary64.ofInt (2 ^ 63))
      else integer (Int64.ofNat value.toInt.natAbs)
  | real value => real value.abs

/-- The numeral of a real number by its index. -/
def realNumeral (index : Nat) : Numeral :=
  if index = 0 then { whole := ['0'], fraction := some ⟨'.', ['0']⟩, power := none }
  else
    let decimal := Decimal.shortest layout.tie index
    if layout.isPositional (decimal.order - 1) then decimal.positional else decimal.scientific

/-- The numeral of the number without its sign. -/
def numeral : Number → Numeral
  | integer value =>
      { whole := Nat.toDigits 10 value.toInt.natAbs, fraction := none, power := none }
  | real value => realNumeral (Binary64.index value)

theorem magnitude_eq_chars (index : Nat)
    : layout.magnitude index = (realNumeral index).chars := by
  unfold Decimal.Layout.magnitude realNumeral
  split
  · rfl
  · simp only
    split
    · exact Decimal.chars_positional _
    · exact Decimal.chars_scientific _

theorem standard_realNumeral (index : Nat) : (realNumeral index).Standard := by
  unfold realNumeral
  split
  · refine ⟨by simp, ?_, by simp⟩
    intro part found
    cases found
    simp
  · simp only
    split
    · exact Decimal.standard_positional _
    · exact Decimal.standard_scientific _

theorem isWhole_realNumeral (index : Nat) : (realNumeral index).isWhole = false := by
  unfold realNumeral
  split
  · rfl
  · simp only
    split
    · unfold Decimal.positional
      simp only
      split
      · rfl
      · split <;> rfl
    · simp [Decimal.scientific, Numeral.isWhole]

theorem index_realNumeral {index : Nat} (finite : index < Binary64.infinity)
    : (realNumeral index).toDecimal.index = index := by
  unfold realNumeral
  split
  · rename_i zero
    rw [zero]
    rfl
  · rename_i nonzero
    have shortest := Decimal.index_shortest layout.tie (Nat.pos_of_ne_zero nonzero) finite
    simp only
    split
    · rw [Decimal.index_positional, shortest]
    · rw [Decimal.toDecimal_scientific, shortest]

theorem standard_numeral (number : Number) : number.numeral.Standard := by
  cases number with
  | integer value =>
      exact ⟨⟨Nat.toDigits_ne_nil, fun _ => isDigit_of_mem_toDigits⟩, by simp [numeral],
        by simp [numeral]⟩
  | real value => exact standard_realNumeral _

/-- A finite number is written as its numeral, with a minus sign if it is negative. -/
theorem toList_text {number : Number} (finite : number.isFinite = true)
    : number.text.toList
      = (if number.isNegative then ['-'] else []) ++ number.numeral.chars := by
  cases number with
  | integer value =>
      have sign : (value < 0) = (value.toInt < 0) := by
        simp [Int64.lt_iff_toInt_lt]
      simp only [text, isNegative, numeral, Numeral.chars, sign, decide_eq_true_eq]
      cases value.toInt with
      | ofNat count =>
          simp [Int.repr, Nat.toList_repr]
      | negSucc count =>
          have signed : Int.negSucc count < 0 := Int.negSucc_lt_zero count
          simp [Int.repr, signed, Nat.toList_repr]
  | real value =>
      have bounded := (Binary64.isFinite_iff value).mp finite
      simp only [text, Decimal.Layout.text, Binary64.view, if_pos bounded, String.toList_ofList,
        magnitude_eq_chars]
      rfl

theorem natAbs_toInt_lt {value : Int64} (other : value ≠ Int64.minValue)
    : value.toInt.natAbs < 2 ^ 63 := by
  have least := value.le_toInt
  have most := value.toInt_lt
  have : value.toInt ≠ -2 ^ 63 := by
    rw [← Int64.toInt_minValue]
    exact fun same => other (Int64.toInt_inj.mp same)
  omega

/-- The least 64-bit integer without its sign, as a decimal. -/
theorem toFloat_two_pow_63
    : Decimal.toFloat { coefficient := 2 ^ 63, exponent := 0 } = Binary64.ofInt (2 ^ 63) := by
  have split : (0 : Int) = (0 : Nat) - (0 : Nat) := rfl
  have index :=
    @Decimal.index_eq_nearest { coefficient := 2 ^ 63, exponent := 0 } 0 0 (by decide) split
      (by decide +kernel) (by decide +kernel)
  have sign : decide ((2 ^ 63 : Int) < 0) = false := rfl
  have size : (2 ^ 63 : Int).natAbs = 2 ^ 63 := rfl
  rw [Decimal.toFloat, index, Nat.pow_zero, Nat.mul_one, Binary64.ofInt, sign, size]

/-- The numeral of a finite number denotes the number without its sign. -/
theorem ofNumeral?_numeral {number : Number} (finite : number.isFinite = true)
    : ofNumeral? number.numeral = some number.magnitude := by
  have complete := (standard_numeral number).isComplete
  unfold ofNumeral?
  rw [complete]
  cases number with
  | integer value =>
      have decimal
          : (numeral (integer value)).toDecimal
            = { coefficient := value.toInt.natAbs, exponent := 0 } := by
        simp [numeral, Numeral.toDecimal, Numeral.fractionDigits]
      have whole : (numeral (integer value)).isWhole = true := rfl
      simp only [decimal, whole, magnitude]
      by_cases least : value = Int64.minValue
      · have size : value.toInt.natAbs = 2 ^ 63 := by rw [least, Int64.toInt_minValue]; rfl
        simp only [size, if_pos least, toFloat_two_pow_63]
        rfl
      · have small : value.toInt.natAbs < 1 <<< 63 := natAbs_toInt_lt least
        simp only [decide_eq_true small, if_neg least]
        rfl
  | real value =>
      have bounded := (Binary64.isFinite_iff value).mp finite
      have whole : (numeral (real value)).isWhole = false := isWhole_realNumeral _
      have index : (numeral (real value)).toDecimal.index = Binary64.index value :=
        index_realNumeral bounded
      have absolute := Binary64.abs_eq_ofIndex (Nat.le_of_lt bounded)
      simp [whole, magnitude, absolute, Decimal.toFloat, index]

/-- A finite number without a minus sign is its own magnitude. -/
theorem magnitude_of_not_isNegative {number : Number} (finite : number.isFinite = true)
    (unsigned : number.isNegative = false)
    : number.magnitude = number := by
  cases number with
  | integer value =>
      have below : ¬value.toInt < 0 := by
        simpa [isNegative, Int64.lt_iff_toInt_lt] using unsigned
      have other : value ≠ Int64.minValue := by
        rintro rfl
        exact below (by decide)
      have same : Int64.ofNat value.toInt.natAbs = value := by
        rw [← Int64.toInt_inj, Int64.toInt_ofNat_of_lt (natAbs_toInt_lt other)]
        omega
      rw [magnitude, if_neg other, same]
  | real value =>
      have bounded := Nat.le_of_lt ((Binary64.isFinite_iff value).mp finite)
      have sign : Binary64.isNegative value = false := unsigned
      rw [magnitude, Binary64.abs_eq_ofIndex bounded, ← sign, Binary64.ofIndex_index bounded]

theorem neg_ofInt {count : Nat} (positive : 0 < count)
    : -Binary64.ofInt count = Binary64.ofInt (-count) := by
  have sign : decide ((count : Int) < 0) = false := by simp
  have sign' : decide (-(count : Int) < 0) = true := by simp [positive]
  rw [Binary64.ofInt, Binary64.ofInt, sign, sign', Int.natAbs_neg,
    Binary64.neg_ofIndex (Binary64.nearest_le_infinity _ _)]
  rfl

/-- The minus sign makes the magnitude the negative number again. -/
theorem neg_toFloat_magnitude {number : Number} (finite : number.isFinite = true)
    (negative : number.isNegative = true)
    : -number.magnitude.toFloat = number.toFloat := by
  cases number with
  | integer value =>
      have below : value.toInt < 0 := by
        simpa [isNegative, Int64.lt_iff_toInt_lt] using negative
      by_cases least : value = Int64.minValue
      · have opposite := @neg_ofInt (2 ^ 63) (by decide)
        simp only [magnitude, toFloat, least, Int64.toInt_minValue]
        exact opposite
      · have small := natAbs_toInt_lt least
        simp only [magnitude, if_neg least, toFloat, Int64.toInt_ofNat_of_lt small]
        rw [neg_ofInt (by omega)]
        congr 1
        omega
  | real value =>
      have bounded := Nat.le_of_lt ((Binary64.isFinite_iff value).mp finite)
      have sign : Binary64.isNegative value = true := negative
      simp only [magnitude, toFloat, Binary64.abs_eq_ofIndex bounded,
        Binary64.neg_ofIndex bounded]
      rw [Bool.not_false, ← sign, Binary64.ofIndex_index bounded]

end Number

end Formulary
