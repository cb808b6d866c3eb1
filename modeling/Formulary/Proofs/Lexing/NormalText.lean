import Mathlib
import Formulary.Text.Normal

/-! The normal text of ASCII. Without a dotted capital I or a sigma a character has its
lowercase wherever it stands, so normal texts can be joined.
-/

namespace Formulary.Text

/-- All characters are from ASCII. -/
def isAscii (text : List Char) : Bool :=
  text.all fun c => c.toNat < 0x80

@[simp]
theorem isAscii_append (first second : List Char)
    : isAscii (first ++ second) = (isAscii first && isAscii second) :=
  List.all_append

theorem isAscii_cons (c : Char) (text : List Char)
    : isAscii (c :: text) = (decide (c.toNat < 0x80) && isAscii text) :=
  rfl

/-- A character of ASCII is neither a dotted capital I nor a sigma. -/
theorem lowerAmong_of_ascii {c : Char} (ascii : c.toNat < 0x80) (before after : List Char)
    : Unicode.lowerAmong before c after = [c.toLower] := by
  have notSigma : c ≠ 'Σ' := by
    rintro rfl
    exact absurd ascii (by decide)
  have notDotted : c ≠ 'İ' := by
    rintro rfl
    exact absurd ascii (by decide)
  rw [Unicode.lowerAmong, if_neg notSigma, if_neg notDotted, Unicode.lowerChar_of_ascii ascii]

theorem lowercaseAfter_of_isAscii {text : List Char} (ascii : isAscii text = true)
    (before : List Char)
    : Unicode.lowercaseAfter before text = text.map Char.toLower := by
  induction text generalizing before with
  | nil => rfl
  | cons c text ih =>
      obtain ⟨low, rest⟩ : c.toNat < 0x80 ∧ isAscii text = true := by
        simpa [isAscii] using ascii
      rw [Unicode.lowercaseAfter, lowerAmong_of_ascii low, ih rest]
      rfl

theorem normalize_of_isAscii {text : String} (ascii : isAscii text.toList = true)
    : normalize text = (text.toList.map Char.toLower).filter fun c => !isBlank c := by
  rw [normalize, Unicode.lowercase, lowercaseAfter_of_isAscii ascii]

/-- The character is its own normal text. -/
def isPlain (c : Char) : Bool :=
  c.toNat < 0x80 && c.toLower == c && !isBlank c

theorem isAscii_of_isPlain {text : List Char} (plain : ∀ c ∈ text, isPlain c = true)
    : isAscii text = true := by
  apply List.all_eq_true.mpr
  intro c member
  have parts := plain c member
  simp only [isPlain, Bool.and_eq_true] at parts
  exact parts.1.1

/-- A text of plain characters is its own normal text. -/
theorem normalize_of_isPlain {text : String} (plain : ∀ c ∈ text.toList, isPlain c = true)
    : normalize text = text.toList := by
  have parts : ∀ c ∈ text.toList, (c.toNat < 0x80 ∧ c.toLower = c) ∧ isBlank c = false := by
    simpa [isPlain] using plain
  have same : text.toList.map Char.toLower = text.toList.map id :=
    List.map_congr_left fun c member => (parts c member).1.2
  rw [normalize_of_isAscii (isAscii_of_isPlain plain), same, List.map_id]
  apply List.filter_eq_self.mpr
  intro c member
  rw [(parts c member).2]
  rfl

end Formulary.Text
