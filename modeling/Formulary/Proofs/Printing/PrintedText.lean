import Formulary.Expr.Basic
import Formulary.Proofs.Lexing.NormalText
import Formulary.Proofs.Printing.Literals

/-! The normal text of a printed tree. It is ASCII whatever the tree, so the normal text is
made up of those of the parts.
-/

namespace Formulary

open Text

theorem isPlain_of_isDigit {c : Char} (digit : c.isDigit = true) : isPlain c = true :=
  eq_of_isDigit isPlain true (by decide) digit

/-- The characters of a numeral are plain. -/
theorem Numeral.Written.isPlain {numeral : Numeral} (written : numeral.Written)
    : ∀ c ∈ numeral.chars, Text.isPlain c = true := by
  intro c member
  rcases List.mem_append.mp member with front | power
  · rcases List.mem_append.mp front with whole | fraction
    · exact isPlain_of_isDigit (written.whole.2 c whole)
    · cases found : numeral.fraction with
      | none => simp [found] at fraction
      | some part =>
          obtain ⟨marked, digits⟩ := written.fraction part found
          rw [found] at fraction
          rcases List.mem_cons.mp fraction with rfl | digit
          · have marks : ['.', ','].all Text.isPlain = true := by decide
            exact List.all_eq_true.mp marks _ marked
          · exact isPlain_of_isDigit (digits c digit)
  · cases found : numeral.power with
    | none => simp [found] at power
    | some part =>
        obtain ⟨signs, digits⟩ := written.power part found
        rw [found] at power
        rcases List.mem_append.mp power with front | digit
        · rcases List.mem_cons.mp front with rfl | signed
          · rfl
          · rcases of_decide_eq_true (signs c (by simpa using signed)) with rfl | rfl <;> rfl
        · exact isPlain_of_isDigit (digits c digit)

namespace Number

/-- A number which is not finite is written as a word, perhaps after a minus sign. -/
theorem text_of_not_isFinite {number : Number} (infinite : ¬number.isFinite = true)
    : number.text = "NaN" ∨ number.text = "inf" ∨ number.text = "-inf" := by
  cases number with
  | integer value => exact absurd rfl infinite
  | real value =>
      have beyond : ¬Binary64.index value < Binary64.infinity := fun bounded =>
        infinite ((Binary64.isFinite_iff value).mpr bounded)
      by_cases top : Binary64.index value = Binary64.infinity
      · simp only [text, Decimal.Layout.text, Binary64.view, if_neg beyond, if_pos top]
        cases Binary64.isNegative value <;> simp
      · simp only [text, Decimal.Layout.text, Binary64.view, if_neg beyond, if_neg top, true_or]

theorem isPlain_text {number : Number} (finite : number.isFinite = true)
    : ∀ c ∈ number.text.toList, isPlain c = true := by
  intro c member
  rw [toList_text finite] at member
  rcases List.mem_append.mp member with sign | digit
  · split at sign
    · rw [List.mem_singleton.mp sign]
      rfl
    · cases sign
  · exact (standard_numeral number).written.isPlain c digit

theorem isAscii_text (number : Number) : isAscii number.text.toList = true := by
  by_cases finite : number.isFinite = true
  · exact isAscii_of_isPlain (isPlain_text finite)
  · rcases text_of_not_isFinite finite with word | word | word <;> rw [word] <;> decide

end Number

namespace Expr

/-- The text of every tree is ASCII, by induction on the tree. -/
theorem isAscii_text (expr : Expr) : isAscii expr.text.toList = true := by
  induction expr with
  | number value => exact value.isAscii_text
  | var index =>
      have digits : isAscii (Nat.toDigits 10 index.toNat) = true :=
        isAscii_of_isPlain fun _ digit => isPlain_of_isDigit (isDigit_of_mem_toDigits digit)
      simp only [text, String.toList_append, Nat.toList_repr, isAscii_append, digits,
        Bool.and_true]
      decide
  | constant name =>
      cases name
      decide +kernel
  | signed sign operand ih =>
      have symbol : isAscii [sign.symbol] = true := by cases sign <;> decide
      simp only [text, String.toList_append, String.toList_singleton, isAscii_append, symbol, ih,
        Bool.and_true]
  | binary op left right leftIh rightIh =>
      have symbol : isAscii [op.symbol] = true := by cases op <;> decide
      simp only [text, String.toList_append, String.toList_singleton, isAscii_append, symbol,
        leftIh, rightIh, Bool.and_true]
      decide
  | call function argument ih =>
      have name : isAscii function.name.toUpper.toList = true := by
        cases function <;> decide +kernel
      simp only [text, String.toList_append, isAscii_append, name, ih, Bool.and_true]
      decide

theorem normalize_var (index : UInt64)
    : normalize (var index).text = 'x' :: Nat.toDigits 10 index.toNat := by
  rw [normalize_of_isPlain]
  · simp [text, Nat.toList_repr]
  · intro c member
    simp only [text, String.toList_append, Nat.toList_repr] at member
    rcases List.mem_append.mp member with letter | digit
    · rw [List.mem_singleton.mp letter]
      rfl
    · exact isPlain_of_isDigit (isDigit_of_mem_toDigits digit)

theorem normalize_constant (name : NamedConstant)
    : normalize (constant name).text = name.name.toList ++ ['(', ')'] := by
  cases name
  decide +kernel

theorem normalize_signed (sign : Sign) (operand : Expr)
    : normalize (signed sign operand).text = sign.symbol :: normalize operand.text := by
  rw [normalize_of_isAscii (isAscii_text _), normalize_of_isAscii (isAscii_text operand), text]
  cases sign <;> simp [Sign.symbol, isBlank]

/-- The blanks around the operator are gone. -/
theorem normalize_binary (op : Operator) (left right : Expr)
    : normalize (binary op left right).text
      = '(' :: (normalize left.text ++ op.symbol :: (normalize right.text ++ [')'])) := by
  rw [normalize_of_isAscii (isAscii_text _), normalize_of_isAscii (isAscii_text left),
    normalize_of_isAscii (isAscii_text right), text]
  cases op <;> simp [Operator.symbol, isBlank]

theorem normalize_call (function : ElementaryFunction) (argument : Expr)
    : normalize (call function argument).text
      = function.name.toList ++ '(' :: (normalize argument.text ++ [')']) := by
  have name
      : (function.name.toUpper.toList.map Char.toLower).filter (fun c => !isBlank c)
        = function.name.toList := by
    cases function <;> decide +kernel
  rw [normalize_of_isAscii (isAscii_text _), normalize_of_isAscii (isAscii_text argument), text]
  simp only [String.toList_append, List.map_append, List.filter_append, name, List.append_assoc]
  rfl

end Expr

end Formulary
