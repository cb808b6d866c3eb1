import Formulary.Unicode.Lowercase

/-! The normal text of a formula, in which neither case nor blanks count. -/

namespace Formulary.Text

/-- The characters which are left out: space, tab, carriage return and line feed. -/
def isBlank (c : Char) : Bool :=
  c == ' ' || c == '\t' || c == '\r' || c == '\n'

/-- The text in lower case and without blanks. Where a sigma is final is decided while the
blanks are still there.
-/
def normalize (text : String) : List Char :=
  (Unicode.lowercase text.toList).filter fun c => !isBlank c

end Formulary.Text
