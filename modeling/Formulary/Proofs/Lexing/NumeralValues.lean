import Formulary.Proofs.Decimal.NearestValues
import Formulary.Proofs.Lexing.LongestLexemes
import Formulary.Proofs.Printing.PrintedText

/-! The values of numerals. A numeral which becomes an integer is that integer, and any other
rounds to a binary64 value, which is also where the integers go when they are computed with.
So it does not matter for the value how a number is spelled.
-/

namespace Formulary

open Binary64 (RoundsTo)

-----------------------------------------------------------------------------------------
-- Exact values
-----------------------------------------------------------------------------------------

namespace Numeral

/-- The number which the numeral states: the digits in front of the mark, and those behind it
as a fraction, times the power of ten.
-/
def value (numeral : Numeral) : ℚ :=
  let whole : ℚ := Nat.ofDigitChars 10 numeral.whole 0
  let fraction : ℚ :=
    Nat.ofDigitChars 10 numeral.fractionDigits 0 / 10 ^ numeral.fractionDigits.length
  (whole + fraction) * 10 ^ numeral.power.elim 0 PowerPart.exponent

/-- The power of ten has digits, if there is one. -/
def HasPowerDigits (numeral : Numeral) : Prop :=
  ∀ part ∈ numeral.power, part.digits ≠ []

variable {numeral : Numeral}

/-- The decimal of a numeral is the number which it states. -/
theorem value_toDecimal (numeral : Numeral) : numeral.toDecimal.value = numeral.value := by
  rw [Decimal.value, toDecimal, value, Nat.ofDigitChars_append,
    Nat.ofDigitChars_eq_ofDigitChars_zero, zpow_sub₀ (by norm_num), zpow_natCast]
  push_cast
  field_simp

/-- Without more than zeros behind the mark and in the power of ten, the digits in front are
the number.
-/
theorem value_of_zeros (fraction : Nat.ofDigitChars 10 numeral.fractionDigits 0 = 0)
    (power : numeral.power.elim 0 PowerPart.exponent = 0)
    : numeral.value = Nat.ofDigitChars 10 numeral.whole 0 := by
  simp [value, fraction, power]

/-- Digits alone state the number which they are. -/
theorem value_of_isWhole (whole : numeral.isWhole = true)
    : numeral.value = Nat.ofDigitChars 10 numeral.whole 0 := by
  simp only [isWhole, Bool.and_eq_true, Option.isNone_iff_eq_none] at whole
  exact value_of_zeros (by simp [fractionDigits, whole.1]) (by simp [whole.2])

end Numeral

-----------------------------------------------------------------------------------------
-- Numbers of numerals
-----------------------------------------------------------------------------------------

/-- The number keeps the value of the numeral. It is an integer exactly if there are digits
alone and they fit, and then it is the one stated. Any other is real and what the stated number
rounds to. Either way arithmetic begins with what that number rounds to.
-/
structure Number.Keeps (number : Number) (numeral : Numeral) : Prop where
  integer_iff
    : (∃ value, number = .integer value)
      ↔ numeral.fraction = none
        ∧ numeral.power = none
        ∧ Nat.ofDigitChars 10 numeral.whole 0 ≤ 2 ^ 63 - 1
  integer : ∀ value, number = .integer value → (value.toInt : ℚ) = numeral.value
  real : ∀ value, number = .real value → RoundsTo numeral.value value
  toFloat : RoundsTo numeral.value number.toFloat

namespace Number

variable {numeral : Numeral} {number : Number}

/-- Small digits alone are kept as an integer. -/
theorem keeps_integer (whole : numeral.isWhole = true)
    (fits : Nat.ofDigitChars 10 numeral.whole 0 < 2 ^ 63)
    : Keeps (.integer (Int64.ofNat (Nat.ofDigitChars 10 numeral.whole 0))) numeral := by
  have same := Int64.toInt_ofNat_of_lt fits
  have exact : ((Int64.ofNat (Nat.ofDigitChars 10 numeral.whole 0)).toInt : ℚ) = numeral.value := by
    rw [same, Numeral.value_of_isWhole whole, Int.cast_natCast]
  constructor
  · simp only [Numeral.isWhole, Bool.and_eq_true, Option.isNone_iff_eq_none] at whole
    exact iff_of_true ⟨_, rfl⟩ ⟨whole.1, whole.2, Nat.le_sub_one_of_lt fits⟩
  · intro value found
    cases found
    exact exact
  · intro value found
    cases found
  · rw [← exact]
    exact Binary64.roundsTo_ofInt (by omega)

/-- Everything else is rounded once. -/
theorem keeps_real (wide : numeral.isWhole = true → 2 ^ 63 ≤ Nat.ofDigitChars 10 numeral.whole 0)
    : Keeps (.real numeral.toDecimal.toFloat) numeral := by
  have rounds := numeral.toDecimal.roundsTo_toFloat
  rw [numeral.value_toDecimal] at rounds
  constructor
  · refine iff_of_false (by simp) ?_
    rintro ⟨noFraction, noPower, fits⟩
    have := wide (by simp [Numeral.isWhole, noFraction, noPower])
    omega
  · intro value found
    cases found
  · intro value found
    cases found
    exact rounds
  · exact rounds

/-- A numeral which is complete has a number, which keeps its value. -/
theorem exists_keeps (written : numeral.Written) (complete : numeral.HasPowerDigits)
    : ∃ number : Number,
        number.Keeps numeral ∧ Denotes numeral.chars (.ok (.number number)) := by
  by_cases small : numeral.isWhole = true ∧ Nat.ofDigitChars 10 numeral.whole 0 < 2 ^ 63
  · exact ⟨_, keeps_integer small.1 small.2, .integer written small.1 small.2⟩
  · have wide (whole : numeral.isWhole = true) := Nat.not_lt.mp (not_and.mp small whole)
    exact ⟨_, keeps_real wide, .real written complete wide⟩

end Number

/-- What denotes a number is a complete numeral, and the number keeps its value. -/
theorem Denotes.exists_numeral {word : List Char} {number : Number}
    (denotes : Denotes word (.ok (.number number)))
    : ∃ numeral : Numeral,
        word = numeral.chars
        ∧ numeral.Written
        ∧ numeral.HasPowerDigits
        ∧ number.Keeps numeral := by
  cases denotes with
  | @integer numeral written whole fits =>
      have noPower : numeral.power = none := by
        simp only [Numeral.isWhole, Bool.and_eq_true, Option.isNone_iff_eq_none] at whole
        exact whole.2
      have complete : numeral.HasPowerDigits := by simp [Numeral.HasPowerDigits, noPower]
      exact ⟨numeral, rfl, written, complete, Number.keeps_integer whole fits⟩
  | real written complete wide => exact ⟨_, rfl, written, complete, Number.keeps_real wide⟩

-----------------------------------------------------------------------------------------
-- Tokens of numerals
-----------------------------------------------------------------------------------------

end Formulary
