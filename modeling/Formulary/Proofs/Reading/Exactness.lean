import Mathlib
import Formulary.Formula
import Formulary.Proofs.Reading.Completeness
import Formulary.Proofs.Reading.Soundness
import Formulary.Proofs.Reading.Unambiguity

/-! Formulas are read exactly as the grammar says, up to the two limits. A text whose
tokens derive a tree is that tree or too deep, and no other text is a formula.
-/

namespace Formulary

open Outcomes TokenStream

namespace Formula

/-- The formula which is the tree with its variables. -/
def ofExpr (expr : Expr) : Formula :=
  { expr := expr, vars := expr.vars }

/-- The whole stream is read as the tree it derives, if that fits. -/
theorem ofStream_of_derives {tokens : List Token} {expr : Expr} {nesting : Nat}
    (derived : Derives (.chain .additive) tokens expr nesting)
    : ofStream (prepend tokens .finish)
      = (do
          let _ ← Operand.fitting maxNesting expr nesting
          return ofExpr expr) := by
  have closed : finish.Closes (.chain .additive) := closes_of_no_operator (by simp) _
  have read := (Reader.reads_of_derives derived).whole maxNesting settle_finish closed
  rw [ofStream, settle_prepend settle_finish, ok_bind, Reader.expression_factor, read]
  cases fits : Operand.fitting maxNesting expr nesting with
  | error error => rfl
  | ok operand =>
      obtain ⟨rfl, _⟩ := Operand.fitting_eq_ok fits
      rfl

/-- A formula in a stream is derived from all of its tokens, within both limits. -/
theorem derives_of_ofStream {stream : TokenStream} {formula : Formula}
    (read : ofStream stream = .ok formula)
    : ∃ tokens nesting,
        stream = prepend tokens .finish
        ∧ Derives (.chain .additive) tokens formula.expr nesting
        ∧ nesting ≤ maxNesting
        ∧ formula.expr.height ≤ maxNesting
        ∧ formula = ofExpr formula.expr := by
  obtain ⟨settled, passed, readTree⟩ := bind_eq_ok_iff.mp read
  obtain ⟨rfl, _⟩ := settle_eq_ok passed
  obtain ⟨⟨tree, rest⟩, readExpression, ended⟩ := bind_eq_ok_iff.mp readTree
  obtain ⟨tokens, nesting, derived⟩ :=
    Reader.sound_ofCategory _ _ _ _ _ (Reader.expression_eq_ok.mp readExpression)
  -- Only at the end of the text is there a formula.
  cases rest with
  | fault error | token found rest => cases ended
  | finish =>
      obtain ⟨whole, nested, low⟩ := Operand.fitting_eq_ok derived.fits
      cases ended
      refine ⟨tokens, nesting, derived.taken, derived.derives, nested, low, ?_⟩
      have vars : tree.vars = tree.expr.vars := congrArg Operand.vars whole
      rw [ofExpr, ← vars]

/-- A text is a formula exactly if its tokens derive the tree within both limits. -/
theorem parse_eq_ok_iff {text : String} {formula : Formula}
    : parse text = .ok formula
      ↔ ∃ tokens nesting,
          tokenize text = .ok tokens
          ∧ Derives (.chain .additive) tokens formula.expr nesting
          ∧ nesting ≤ maxNesting
          ∧ formula.expr.height ≤ maxNesting
          ∧ formula = ofExpr formula.expr := by
  constructor
  · intro read
    obtain ⟨tokens, nesting, taken, rest⟩ := derives_of_ofStream read
    exact ⟨tokens, nesting, toTokens_eq_ok_iff.mpr taken, rest⟩
  · rintro ⟨tokens, nesting, lexed, derived, nested, low, whole⟩
    rw [parse, toTokens_eq_ok_iff.mp lexed, ofStream_of_derives derived,
      Operand.fitting_of_le nested low, ok_bind, ← whole]
    rfl

/-- A text whose tokens derive a tree beyond a limit is refused for that. -/
theorem parse_of_not_le {text : String} {tokens : List Token} {expr : Expr} {nesting : Nat}
    (lexed : tokenize text = .ok tokens)
    (derived : Derives (.chain .additive) tokens expr nesting)
    (beyond : ¬(nesting ≤ maxNesting ∧ expr.height ≤ maxNesting))
    : parse text = .error (.nestingTooDeep maxNesting) := by
  rw [parse, toTokens_eq_ok_iff.mp lexed, ofStream_of_derives derived,
    Operand.fitting_of_not_le _ beyond, error_bind]

end Formula

end Formulary
