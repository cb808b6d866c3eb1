import Formulary.Decimal.Reader
import Formulary.Proofs.Lexing.Numerals

/-! Numerals which are read back. A text which is a numeral with a point as its mark, and nothing
else, is read as the nearest value, unless the digits of its power of ten are missing.
-/

namespace Formulary

namespace Numeral

variable {numeral : Numeral}

/-- The mark of the numeral, if it has one, is a point. -/
def Pointed (numeral : Numeral) : Prop :=
  ∀ part ∈ numeral.fraction, part.mark = '.'

/-- What is true of every digit, the point, the letter of the power of ten and its signs, is true
of every character of a numeral with a point.
-/
theorem Written.of_mem_chars (written : numeral.Written) (pointed : numeral.Pointed)
    (kind : Char → Bool)
    (each : ((List.range' 48 10).all fun code => kind (Char.ofNat code) == true) = true)
    (others : ['.', 'e', '+', '-'].all kind = true) {c : Char} (member : c ∈ numeral.chars)
    : kind c = true := by
  have digit {c : Char} (found : c.isDigit = true) : kind c = true :=
    eq_of_isDigit kind true each found
  have other {c : Char} (found : c ∈ ['.', 'e', '+', '-']) : kind c = true :=
    List.all_eq_true.mp others c found
  simp only [chars, List.mem_append] at member
  rcases member with (whole | fraction) | power
  · exact digit (written.whole.2 c whole)
  · cases found : numeral.fraction with
    | none => simp [found] at fraction
    | some part =>
        simp only [found, Option.elim, Fraction.chars, pointed part found, List.mem_cons]
          at fraction
        rcases fraction with rfl | behind
        · exact other (by simp)
        · exact digit ((written.fraction part found).2 c behind)
  · cases found : numeral.power with
    | none => simp [found] at power
    | some part =>
        obtain ⟨signs, digits⟩ := written.power part found
        simp only [found, Option.elim, PowerPart.chars, List.mem_append, List.mem_cons] at power
        rcases power with (rfl | signed) | behind
        · exact other (by simp)
        · rcases of_decide_eq_true (signs c (Option.mem_toList.mp signed)) with rfl | rfl
          · exact other (by simp)
          · exact other (by simp)
        · exact digit (digits c behind)

/-- Where there is no comma, it does not matter whether it is a mark. -/
theorem scan_point {text : List Char} (comma : ',' ∉ text)
    : scan ['.'] text = scan ['.', ','] text := by
  have fraction : Fraction.scan ['.'] (text.dropWhile Char.isDigit)
      = Fraction.scan ['.', ','] (text.dropWhile Char.isDigit) := by
    have kept : ',' ∉ text.dropWhile Char.isDigit := fun member =>
      comma ((List.dropWhile_suffix _).subset member)
    cases rest : text.dropWhile Char.isDigit with
    | nil => rfl
    | cons c rest' =>
        have other : c ≠ ',' := by
          rintro rfl
          exact kept (by simp [rest])
        simp [Fraction.scan, other]
  simp only [scan, fraction]

end Numeral

namespace Decimal

variable {numeral : Numeral}

/-- A name of a value which is no number does not begin with a digit. -/
theorem not_isName {first : Char} {more : List Char} (digit : first.isDigit = true)
    : first :: more ∉ infinityNames ∧ first :: more ≠ "nan".toList := by
  have i : first ≠ 'i' := by
    rintro rfl
    cases digit
  have n : first ≠ 'n' := by
    rintro rfl
    cases digit
  exact ⟨by simp [infinityNames, i], by simp [n]⟩

/-- A numeral with a point is read as the value nearest to it if it is complete. -/
theorem readMagnitude?_chars (written : numeral.Written) (pointed : numeral.Pointed)
    (negative : Bool)
    : readMagnitude? negative numeral.chars
      = if numeral.isComplete then some (Binary64.ofIndex negative numeral.toDecimal.index)
        else none := by
  have lower : numeral.chars.map Char.toLower = numeral.chars := by
    have kept (c : Char) (member : c ∈ numeral.chars) : c.toLower = id c :=
      beq_iff_eq.mp
        (written.of_mem_chars pointed (fun c => c.toLower == c) (by decide) (by decide) member)
    rw [List.map_congr_left kept, List.map_id]
  have comma : ',' ∉ numeral.chars := fun member =>
    absurd (written.of_mem_chars pointed (· != ',') (by decide) (by decide) member) (by decide)
  have scanned := Numeral.scan_chars_append written numeral.endsBefore_nil
  rw [List.append_nil, ← Numeral.scan_point comma] at scanned
  obtain ⟨first, more, digit, split⟩ := written.exists_chars_eq
  obtain ⟨infinite, nan⟩ := @not_isName first more digit
  rw [← split] at infinite nan
  simp only [readMagnitude?, lower, if_neg infinite, if_neg nan, scanned, List.isEmpty_nil,
    Bool.true_and]

/-- So it is with a minus sign in front. -/
theorem readFloat?_chars (written : numeral.Written) (pointed : numeral.Pointed)
    (negative : Bool)
    : readFloat? (String.ofList ((if negative then ['-'] else []) ++ numeral.chars))
      = if numeral.isComplete then some (Binary64.ofIndex negative numeral.toDecimal.index)
        else none := by
  rw [readFloat?, String.toList_ofList]
  cases negative with
  | true => exact readMagnitude?_chars written pointed true
  | false =>
      obtain ⟨first, more, digit, split⟩ := written.exists_chars_eq
      have read := readMagnitude?_chars written pointed false
      simp only [Bool.false_eq_true, if_false, List.nil_append]
      rw [split] at read ⊢
      split
      · rename_i signed
        cases signed
        cases digit
      · rename_i signed
        cases signed
        cases digit
      · exact read

end Decimal

namespace Numeral

variable {numeral : Numeral}

theorem Standard.pointed (standard : numeral.Standard) : numeral.Pointed :=
  fun part found => (standard.fraction part found).1

/-- A numeral as numbers are written is read as the value nearest to it. -/
theorem Standard.readFloat?_chars (standard : numeral.Standard) (negative : Bool)
    : Decimal.readFloat? (String.ofList ((if negative then ['-'] else []) ++ numeral.chars))
      = some (Binary64.ofIndex negative numeral.toDecimal.index) := by
  rw [Decimal.readFloat?_chars standard.written standard.pointed, if_pos standard.isComplete]

/-- The numeral with a point as its mark. -/
def withPoint (numeral : Numeral) : Numeral :=
  { numeral with
    fraction := numeral.fraction.map fun fraction => { fraction with mark := '.' } }

theorem pointed_withPoint (numeral : Numeral) : numeral.withPoint.Pointed := by
  intro part found
  obtain ⟨_, _, rfl⟩ := Option.map_eq_some_iff.mp found
  rfl

theorem Written.withPoint (written : numeral.Written) : numeral.withPoint.Written where
  whole := written.whole
  fraction part found := by
    obtain ⟨original, member, rfl⟩ := Option.map_eq_some_iff.mp found
    exact ⟨by simp, (written.fraction original member).2⟩
  power := written.power

theorem fractionDigits_withPoint (numeral : Numeral)
    : numeral.withPoint.fractionDigits = numeral.fractionDigits := by
  cases fraction : numeral.fraction <;> simp [withPoint, fractionDigits, fraction]

/-- The text of a numeral is read as the value nearest to it if it is complete. -/
theorem readFloat?_text (written : numeral.Written)
    : Decimal.readFloat? numeral.text
      = if numeral.isComplete then some numeral.toDecimal.toFloat else none := by
  have read := Decimal.readFloat?_chars written.withPoint numeral.pointed_withPoint false
  have complete : numeral.withPoint.isComplete = numeral.isComplete := by
    rw [isComplete, isComplete, fractionDigits_withPoint]
    rfl
  have value : numeral.withPoint.toDecimal = numeral.toDecimal := by
    rw [toDecimal, toDecimal, fractionDigits_withPoint]
    rfl
  rw [complete, value] at read
  exact read

end Numeral

end Formulary
