import Formulary.CommandLine.Output
import Formulary.Proofs.Binary64.Fractions
import Formulary.Proofs.Decimal.ReadNumerals
import Formulary.Proofs.Decimal.WholeNumbers
import Formulary.Proofs.Decimal.WrittenNumerals

/-! Values as the command line shows them. Whole values below `10 ^ 15` are shown as integers, all
others with their shortest digits, and it makes no difference: the digits of the integer are the
shortest ones. What is shown of a number reads back as the number.
-/

namespace Formulary

-----------------------------------------------------------------------------------------
-- Plain numerals
-----------------------------------------------------------------------------------------

namespace Decimal

/-- The numeral of the decimal without a power of ten, and without a point if there are no digits
behind it.
-/
def plain (decimal : Decimal) : Numeral :=
  if 0 ≤ decimal.exponent then
    { whole := decimal.digits ++ List.replicate decimal.exponent.toNat '0'
      fraction := none
      power := none }
  else decimal.positional

theorem order_eq (decimal : Decimal) : decimal.order = decimal.digits.length + decimal.exponent :=
  rfl

theorem length_digits_pos (decimal : Decimal) : 0 < decimal.digits.length :=
  List.length_pos_iff.mpr decimal.digits_ne_nil

theorem chars_plain (decimal : Decimal)
    : CommandLine.layout.positionalDigits decimal.digits decimal.order = decimal.plain.chars := by
  have order := decimal.order_eq
  have some := decimal.length_digits_pos
  unfold plain
  split
  · rename_i whole
    have zeros : decimal.order.toNat - decimal.digits.length = decimal.exponent.toNat := by omega
    rw [Layout.positionalDigits, if_neg (by omega), if_pos (by omega), zeros]
    simp [Numeral.chars, CommandLine.layout]
  · rename_i fraction
    -- There are digits behind the point, so the layouts differ in nothing.
    rw [← chars_positional, Layout.positionalDigits, Layout.positionalDigits]
    split
    · rfl
    · rw [if_neg (by omega), if_neg (by omega)]

theorem standard_plain (decimal : Decimal) : decimal.plain.Standard := by
  unfold plain
  split
  · refine ⟨⟨by simp [decimal.digits_ne_nil], fun c member => ?_⟩, by simp, by simp⟩
    rcases List.mem_append.mp member with digit | zero
    · exact isDigit_of_mem_toDigits digit
    · rw [List.eq_of_mem_replicate zero]
      rfl
  · exact decimal.standard_positional

/-- The plain numeral is the decimal, perhaps with its zeros written out. -/
theorem index_plain (decimal : Decimal) : decimal.plain.toDecimal.index = decimal.index := by
  unfold plain
  split
  · rename_i whole
    have spread
        : Numeral.toDecimal
            { whole := decimal.digits ++ List.replicate decimal.exponent.toNat '0'
              fraction := none
              power := none }
          = decimal.spread decimal.exponent.toNat := by
      have exponent : (0 : Int) = decimal.exponent - decimal.exponent.toNat := by omega
      simp only [Numeral.toDecimal, Numeral.fractionDigits, Option.elim, List.append_nil,
        List.length_nil, Nat.ofDigitChars_append, decimal.ofDigitChars_digits,
        Nat.ofDigitChars_replicate_zero, Decimal.spread]
      rw [Nat.mul_comm, ← exponent]
      rfl
    rw [spread, index_spread]
  · exact decimal.index_positional

/-- A whole number without the zeros at its end is written with them again. -/
theorem chars_plain_trim {whole : Nat} (positive : 0 < whole)
    : (trim ⟨whole, 0⟩).plain.chars = Nat.toDigits 10 whole := by
  have positive' : 0 < (trim ⟨whole, 0⟩).coefficient := by
    rw [← value_pos_iff, value_trim, value_pos_iff]
    exact positive
  obtain ⟨count, split⟩ :=
    exists_eq_spread (@coefficient_trim_mod ⟨whole, 0⟩ positive) (value_trim ⟨whole, 0⟩).symm
  generalize trim ⟨whole, 0⟩ = decimal at positive' split
  obtain ⟨coefficient, exponent⟩ := Decimal.mk.inj split
  have power : decimal.exponent = count := by omega
  rw [plain, if_pos (by omega), coefficient, toDigits_mul_pow positive', power, Int.toNat_natCast]
  simp [Numeral.chars, digits]

end Decimal

-----------------------------------------------------------------------------------------
-- Values with their shortest digits
-----------------------------------------------------------------------------------------

namespace CommandLine

open Binary64 (infinity isNegative magnitude number? ofIndex view)
open Decimal (IsShortest readFloat?)

/-- The minus sign, if there is one. -/
def signChars (negative : Bool) : List Char :=
  if negative then ['-'] else []

/-- The text is the value with the shortest digits which read back, without a power of ten, and with
a point only where digits come behind it. What is no number has a name. The sign is always there,
also that of zero.
-/
def Displays (x : Float) (text : String) : Prop :=
  match view x with
  | .nan => text = "NaN"
  | .infinite negative => text = String.ofList (signChars negative ++ "inf".toList)
  | .finite negative 0 => text = String.ofList (signChars negative ++ ['0'])
  | .finite negative index =>
      ∃ decimal,
        IsShortest index decimal ∧ text = String.ofList (signChars negative ++ decimal.plain.chars)

/-- The numeral of a finite magnitude. -/
def plainNumeral (index : Nat) : Numeral :=
  if index = 0 then { whole := ['0'], fraction := none, power := none }
  else (Decimal.shortest layout.tie index).plain

theorem magnitude_eq_chars_plain (index : Nat)
    : layout.magnitude index = (plainNumeral index).chars := by
  have positional (power : Int) : layout.isPositional power = true := rfl
  rw [Decimal.Layout.magnitude, plainNumeral]
  simp only [positional, if_true, Decimal.chars_plain]
  split <;> rfl

theorem standard_plainNumeral (index : Nat) : (plainNumeral index).Standard := by
  unfold plainNumeral
  split
  · exact ⟨by simp, by simp, by simp⟩
  · exact Decimal.standard_plain _

theorem index_plainNumeral {index : Nat} (finite : index < infinity)
    : (plainNumeral index).toDecimal.index = index := by
  unfold plainNumeral
  split
  · rename_i zero
    rw [zero]
    rfl
  · rename_i nonzero
    rw [Decimal.index_plain, Decimal.index_shortest _ (Nat.pos_of_ne_zero nonzero) finite]

variable {x : Float} {n : Int}

theorem text_of_finite (finite : Binary64.index x < infinity)
    : layout.text x
      = String.ofList (signChars (isNegative x) ++ (plainNumeral (Binary64.index x)).chars) := by
  rw [Decimal.Layout.text, view, if_pos finite]
  simp only [magnitude_eq_chars_plain]
  rfl

/-- What is finite has a finite index. -/
theorem finite_of_view {negative : Bool} {index : Nat} (kind : view x = .finite negative index)
    : index < infinity := by
  rw [view] at kind
  split at kind
  · rename_i finite
    cases kind
    exact finite
  · split at kind <;> cases kind

/-- The text of a value is what displays it, and nothing else does. -/
theorem displays_iff (x : Float) (text : String) : Displays x text ↔ text = layout.text x := by
  cases kind : view x with
  | nan => simp only [Displays, Decimal.Layout.text, kind]
  | infinite negative =>
      simp only [Displays, Decimal.Layout.text, kind]
      cases negative <;> rfl
  | finite negative index =>
      have finite := finite_of_view kind
      simp only [Displays, Decimal.Layout.text, kind, magnitude_eq_chars_plain, plainNumeral]
      cases index with
      | zero => rfl
      | succ before =>
          have positive := Nat.succ_pos before
          simp only [Decimal.isShortest_iff positive finite, exists_eq_left,
            if_neg (Nat.succ_ne_zero before)]
          rfl

theorem magnitude_eq_zero_iff {index : Nat} : magnitude index = 0 ↔ index = 0 := by
  have none : magnitude 0 = 0 := by simp [magnitude, Binary64.ticks_of_lt Binary64.binade_pos]
  rw [← none, Binary64.magnitude_injective.eq_iff]

/-- The plain numeral of a whole number below `2 ^ 53` are its digits. -/
theorem chars_plainNumeral_of_whole {index whole : Nat} (finite : index < infinity)
    (small : whole < 2 ^ 53) (size : magnitude index = whole)
    : (plainNumeral index).chars = Nat.toDigits 10 whole := by
  unfold plainNumeral
  split
  · rename_i zero
    rw [zero, magnitude_eq_zero_iff.mpr rfl, eq_comm, Nat.cast_eq_zero] at size
    rw [size]
    simp [Numeral.chars]
  · rename_i nonzero
    have positive : 0 < whole := by
      rw [Nat.pos_iff_ne_zero, ne_eq, ← Nat.cast_eq_zero (R := ℚ), ← size, magnitude_eq_zero_iff]
      exact nonzero
    have shortest := Decimal.isShortest_whole positive small finite size
    rw [Decimal.isShortest_iff (Nat.pos_of_ne_zero nonzero) finite] at shortest
    have digits := Decimal.chars_plain_trim positive
    rw [shortest] at digits
    exact digits

/-- Below `2 ^ 53` a whole value other than negative zero is displayed as the integer. -/
theorem text_of_whole (exact : number? x = some (n : ℚ)) (small : n.natAbs < 2 ^ 53)
    (other : x ≠ ofIndex true 0)
    : layout.text x = n.repr := by
  have finite := Binary64.finite_of_number? exact
  have size := Binary64.magnitude_eq_natAbs exact
  have signed := Binary64.eq_signed_natAbs exact
  rw [text_of_finite finite, chars_plainNumeral_of_whole finite small size, ← String.toList_inj,
    String.toList_ofList]
  generalize n.natAbs = whole at size signed
  subst signed
  cases negative : isNegative x with
  | false => simp [signChars, Int.repr, Nat.toList_repr]
  | true =>
      cases whole with
      | zero =>
          -- Only negative zero has a sign which the integer has not.
          rw [Nat.cast_zero, magnitude_eq_zero_iff] at size
          have same := Binary64.ofIndex_index finite.le
          rw [negative, size] at same
          exact absurd same.symm other
      | succ before =>
          have opposite : (-(before + 1 : Nat) : Int) = Int.negSucc before := rfl
          rw [if_pos rfl, opposite]
          simp [signChars, Int.repr, Nat.toList_repr]

/-- The text of a finite value reads back as the value. -/
theorem readFloat?_text (finite : Binary64.index x < infinity)
    : readFloat? (layout.text x) = some x := by
  have read := (standard_plainNumeral (Binary64.index x)).readFloat?_chars (isNegative x)
  rw [index_plainNumeral finite, Binary64.ofIndex_index finite.le] at read
  rw [text_of_finite finite]
  exact read

/-- The text of a value is plain, whichever way it is formed. -/
structure ShownPlainly (x : Float) : Prop where
  /-- The way for integers is no other than the general one, except for negative zero. -/
  general : x ≠ ofIndex true 0 → valueText x = layout.text x
  displays : x ≠ ofIndex true 0 → ∀ text, Displays x text ↔ text = valueText x
  negativeZero : x = ofIndex true 0 → valueText x = "0"
  /-- An integer below the bound is shown as what the cast to 64 bits makes of it, and the cast is
  exact.
  -/
  integer
    : ∀ n : Int,
        number? x = some (n : ℚ)
        → n.natAbs < 10 ^ 15
        → x.toModel.toInt64.toInt = n ∧ valueText x = x.toModel.toInt64.toInt.repr
  /-- What is shown of a number is read as the number. -/
  reads
    : ∀ value,
        number? x = some value
        → ∃ y, readFloat? (valueText x) = some y
            ∧ number? y = some value
            ∧ (x ≠ ofIndex true 0 → y = x)

/-- The bound for integers is a value itself. -/
theorem exists_ofIndex_eq_bound
    : ∃ high,
        high < infinity
        ∧ (1e15 : Float) = ofIndex false high
        ∧ Binary64.ticks high = 10 ^ 15 * Binary64.ticksPerUnit := by
  refine ⟨Binary64.nearest (10 ^ 15 * Binary64.ticksPerUnit) 1, ?_, ?_, ?_⟩ <;> decide +kernel

/-- The test for integers tells whether a value is an integer below the bound. -/
theorem shownAsInteger_iff
    : (Binary64.fraction x == 0 && x.abs < 1e15) = true
      ↔ ∃ n : Int, number? x = some (n : ℚ) ∧ n.natAbs < 10 ^ 15 := by
  obtain ⟨high, finite, bound, size⟩ := exists_ofIndex_eq_bound
  rw [Bool.and_eq_true, decide_eq_true_iff, Binary64.fraction_beq_zero_iff, bound]
  constructor
  · rintro ⟨⟨n, exact⟩, small⟩
    exact ⟨n, exact, (Binary64.abs_lt_iff exact finite size).mp small⟩
  · rintro ⟨n, exact, small⟩
    exact ⟨⟨n, exact⟩, (Binary64.abs_lt_iff exact finite size).mpr small⟩

/-- Integers below the bound are within 64 bits. -/
theorem toInt_toInt64_of_small (exact : number? x = some (n : ℚ)) (small : n.natAbs < 10 ^ 15)
    : x.toModel.toInt64.toInt = n := by
  have bounds : -2 ^ 63 ≤ n ∧ n < 2 ^ 63 := by omega
  exact Binary64.toInt_toInt64 exact bounds.1 bounds.2

theorem valueText_of_integer (exact : number? x = some (n : ℚ)) (small : n.natAbs < 10 ^ 15)
    : valueText x = n.repr := by
  rw [valueText, if_pos (shownAsInteger_iff.mpr ⟨n, exact, small⟩),
    toInt_toInt64_of_small exact small]

theorem valueText_eq_text (other : x ≠ ofIndex true 0) : valueText x = layout.text x := by
  by_cases shown : (Binary64.fraction x == 0 && x.abs < 1e15) = true
  · obtain ⟨n, exact, small⟩ := shownAsInteger_iff.mp shown
    have bound : n.natAbs < 2 ^ 53 := Nat.lt_trans small (by decide)
    rw [valueText_of_integer exact small, text_of_whole exact bound other]
  · rw [valueText, if_neg shown]

/-- Zero is zero with either sign. -/
theorem number?_zero (negative : Bool) : number? (ofIndex negative 0) = some ((0 : Int) : ℚ) := by
  rw [number?, Binary64.toBitVec_ofIndex (Nat.zero_le _), Binary64.unpack_zero, Int.cast_zero]

/-- Negative zero is shown as an integer, which has no sign. -/
theorem valueText_negativeZero : valueText (ofIndex true 0) = "0" :=
  valueText_of_integer (number?_zero true) (by decide)

theorem readFloat?_zero : readFloat? "0" = some (ofIndex false 0) := by
  have read := (standard_plainNumeral 0).readFloat?_chars false
  rwa [index_plainNumeral (by decide)] at read

/-- Every value is shown plainly: the shortest digits of an integer below the bound are the digits
of the integer, so its own way changes nothing but the sign of zero.
-/
theorem shownPlainly (x : Float) : ShownPlainly x where
  general := valueText_eq_text
  displays other text := by rw [displays_iff, valueText_eq_text other]
  negativeZero := by
    rintro rfl
    exact valueText_negativeZero
  integer n exact small := by
    have cast := toInt_toInt64_of_small exact small
    exact ⟨cast, by rw [cast, valueText_of_integer exact small]⟩
  reads value exact := by
    have finite := Binary64.finite_of_number? exact
    by_cases zero : x = ofIndex true 0
    · subst zero
      rw [number?_zero, Option.some_inj] at exact
      refine ⟨ofIndex false 0, ?_, ?_, fun other => absurd rfl other⟩
      · rw [valueText_negativeZero, readFloat?_zero]
      · rw [number?_zero, exact]
    · refine ⟨x, ?_, exact, fun _ => rfl⟩
      rw [valueText_eq_text zero, readFloat?_text finite]

end CommandLine

end Formulary
