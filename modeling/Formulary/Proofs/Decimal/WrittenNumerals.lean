import Formulary.Number
import Formulary.Proofs.Decimal.SameNumber
import Formulary.Proofs.Lexing.Numerals

/-! The numerals which real numbers are written as. Each form has its digits and its power
of ten in other places, and all of them are the shortest decimal of the magnitude.
-/

namespace Formulary

namespace Decimal

theorem ofDigitChars_digits (decimal : Decimal)
    : Nat.ofDigitChars 10 decimal.digits 0 = decimal.coefficient :=
  Nat.ofDigitChars_ten_toDigits

theorem digits_ne_nil (decimal : Decimal) : decimal.digits ≠ [] :=
  Nat.toDigits_ne_nil

/-- The numeral of the decimal without a power of ten. -/
def positional (decimal : Decimal) : Numeral :=
  let point := decimal.order
  if point ≤ 0 then
    { whole := ['0']
      fraction :=
        some { mark := '.', digits := List.replicate (-point).toNat '0' ++ decimal.digits }
      power := none }
  else if decimal.digits.length ≤ point.toNat then
    { whole := decimal.digits ++ List.replicate (point.toNat - decimal.digits.length) '0'
      fraction := some { mark := '.', digits := ['0'] }
      power := none }
  else
    { whole := decimal.digits.take point.toNat
      fraction := some { mark := '.', digits := decimal.digits.drop point.toNat }
      power := none }

/-- The numeral of the decimal with a power of ten. -/
def scientific (decimal : Decimal) : Numeral :=
  { whole := decimal.digits.take 1
    fraction :=
      if decimal.digits.length ≤ 1 then none
      else some { mark := '.', digits := decimal.digits.drop 1 }
    power :=
      some {
        sign := if decimal.order - 1 < 0 then some '-' else none
        digits := Nat.toDigits 10 (decimal.order - 1).natAbs
      } }

theorem chars_positional (decimal : Decimal)
    : Number.layout.positionalDigits decimal.digits decimal.order
      = decimal.positional.chars := by
  simp only [Layout.positionalDigits, positional]
  split
  · simp [Numeral.chars, Fraction.chars]
  · split <;> simp [Numeral.chars, Fraction.chars, Number.layout]

theorem chars_scientific (decimal : Decimal)
    : Number.layout.exponentDigits decimal.digits (decimal.order - 1)
      = decimal.scientific.chars := by
  simp only [Layout.exponentDigits, scientific, Numeral.chars, Number.layout]
  split <;> split <;> simp [Fraction.chars, PowerPart.chars]

theorem standard_positional (decimal : Decimal) : decimal.positional.Standard := by
  have zeros (count : Nat) : ∀ c ∈ List.replicate count '0', c.isDigit = true := by
    intro c member
    rw [List.eq_of_mem_replicate member]
    rfl
  have digits : ∀ c ∈ decimal.digits, c.isDigit = true := fun _ => isDigit_of_mem_toDigits
  have nonempty := decimal.digits_ne_nil
  unfold positional
  simp only
  split
  · refine ⟨⟨by simp, by simp⟩, ?_, by simp⟩
    intro part found
    cases found
    refine ⟨rfl, fun c member => ?_⟩
    rcases List.mem_append.mp member with zero | digit
    · exact zeros _ c zero
    · exact digits c digit
  · rename_i positive
    split
    · refine ⟨⟨by simp [nonempty], fun c member => ?_⟩, ?_, by simp⟩
      · rcases List.mem_append.mp member with digit | zero
        · exact digits c digit
        · exact zeros _ c zero
      · intro part found
        cases found
        exact ⟨rfl, by simp⟩
    · refine ⟨⟨?_, fun c member => digits c (List.mem_of_mem_take member)⟩, ?_, by simp⟩
      · have : decimal.order.toNat ≠ 0 := by omega
        simp [nonempty, this]
      · intro part found
        cases found
        exact ⟨rfl, fun c member => digits c (List.mem_of_mem_drop member)⟩

theorem standard_scientific (decimal : Decimal) : decimal.scientific.Standard := by
  have digits : ∀ c ∈ decimal.digits, c.isDigit = true := fun _ => isDigit_of_mem_toDigits
  refine ⟨⟨?_, fun c member => digits c (List.mem_of_mem_take member)⟩, ?_, ?_⟩
  · simp [scientific, decimal.digits_ne_nil]
  · intro part found
    simp only [scientific] at found
    split at found <;> cases found
    exact ⟨rfl, fun c member => digits c (List.mem_of_mem_drop member)⟩
  · intro part found
    cases found
    refine ⟨?_, Nat.toDigits_ne_nil, fun c member => ?_⟩
    · simp only
      split
      · exact .inr rfl
      · exact .inl rfl
    · exact isDigit_of_mem_toDigits member

theorem toDecimal_pointed (whole fraction : List Char)
    : Numeral.toDecimal { whole := whole, fraction := some ⟨'.', fraction⟩, power := none }
      = {
          coefficient := Nat.ofDigitChars 10 (whole ++ fraction) 0
          exponent := -fraction.length
        } := by
  simp [Numeral.toDecimal, Numeral.fractionDigits]

/-- The positional numeral is the decimal, perhaps with more zeros. -/
theorem index_positional (decimal : Decimal)
    : decimal.positional.toDecimal.index = decimal.index := by
  have value := decimal.ofDigitChars_digits
  have order : decimal.order = decimal.digits.length + decimal.exponent := rfl
  unfold positional
  simp only
  split
  · -- All digits stand behind the point, after some zeros.
    have coefficient
        : Nat.ofDigitChars 10
            (['0'] ++ (List.replicate (-decimal.order).toNat '0' ++ decimal.digits)) 0
          = decimal.coefficient := by
      simp [Nat.ofDigitChars_append, Nat.ofDigitChars_cons, value]
    have exponent
        : -((List.replicate (-decimal.order).toNat '0' ++ decimal.digits).length : Int)
          = decimal.exponent := by
      rw [List.length_append, List.length_replicate]
      omega
    rw [toDecimal_pointed, coefficient, exponent]
  · split
    · -- All digits stand before the point, and some zeros after them.
      have coefficient
          : Nat.ofDigitChars 10
              (decimal.digits ++ List.replicate (decimal.order.toNat - decimal.digits.length) '0'
                ++ ['0']) 0
            = decimal.coefficient * 10 ^ (decimal.order.toNat - decimal.digits.length + 1) := by
        have zeros (count : Nat)
            : List.replicate count '0' ++ ['0'] = List.replicate (count + 1) '0' :=
          List.replicate_succ'.symm
        rw [List.append_assoc, zeros, Nat.ofDigitChars_append, value,
          Nat.ofDigitChars_replicate_zero, Nat.mul_comm]
      have exponent
          : -((['0'].length : Nat) : Int)
            = decimal.exponent - (decimal.order.toNat - decimal.digits.length + 1 : Nat) := by
        simp only [List.length_singleton]
        omega
      rw [toDecimal_pointed, coefficient, exponent]
      exact index_spread decimal _
    · -- The point stands between the digits.
      have coefficient
          : Nat.ofDigitChars 10
              (decimal.digits.take decimal.order.toNat
                ++ decimal.digits.drop decimal.order.toNat) 0
            = decimal.coefficient := by
        rw [List.take_append_drop, value]
      have exponent
          : -((decimal.digits.drop decimal.order.toNat).length : Int) = decimal.exponent := by
        rw [List.length_drop]
        omega
      rw [toDecimal_pointed, coefficient, exponent]

theorem toDecimal_scientific (decimal : Decimal) : decimal.scientific.toDecimal = decimal := by
  have value := decimal.ofDigitChars_digits
  have order : decimal.order = decimal.digits.length + decimal.exponent := rfl
  have nonempty := List.length_pos_iff.mpr decimal.digits_ne_nil
  have fraction : decimal.scientific.fractionDigits = decimal.digits.drop 1 := by
    simp only [Numeral.fractionDigits, scientific]
    split
    · rename_i single
      simp [List.drop_eq_nil_of_le single]
    · rfl
  have coefficient
      : Nat.ofDigitChars 10 (decimal.scientific.whole ++ decimal.scientific.fractionDigits) 0
        = decimal.coefficient := by
    rw [fraction, scientific, List.take_append_drop, value]
  have power
      : decimal.scientific.power.elim 0 PowerPart.exponent = decimal.order - 1 := by
    rcases Int.lt_or_le (decimal.order - 1) 0 with negative | positive
    · simp only [scientific, Option.elim, PowerPart.exponent, Nat.ofDigitChars_ten_toDigits,
        if_pos negative, if_true]
      omega
    · simp only [scientific, Option.elim, PowerPart.exponent, Nat.ofDigitChars_ten_toDigits,
        if_neg (Int.not_lt.mpr positive), reduceCtorEq, if_false]
      omega
  have exponent
      : decimal.scientific.power.elim 0 PowerPart.exponent
          - (decimal.scientific.fractionDigits.length : Int)
        = decimal.exponent := by
    rw [power, fraction, List.length_drop]
    omega
  rw [Numeral.toDecimal, coefficient, exponent]

end Decimal

end Formulary
