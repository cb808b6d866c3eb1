import Formulary.Proofs.Reading.Categories
import Formulary.Proofs.Reading.Operands

/-! What the grammar derives is read as the derived tree, or refused because it is too
deep. Nothing else can happen to it, whatever comes after.
-/

namespace Formulary.Reader

open Outcomes Operand TokenStream

/-- What reading does with tokens which derive a tree. A factor is read whole. A chain
whose operands are at their end is read up to there, and may go on.
-/
def Reads : Category → List Token → Expr → Nat → Prop
  | .factor, tokens, expr, nesting =>
      ∀ (room : Nat) (rest : TokenStream),
        rest.settle = .ok rest
        → factor room (prepend tokens rest)
          = (do
              let operand ← fitting room expr nesting
              return (operand, rest))
  | .chain level, tokens, expr, nesting =>
      ∀ (room : Nat) (rest : TokenStream),
        rest.settle = .ok rest
        → rest.Closes level.operands
        → ofCategory room (.chain level) (prepend tokens rest)
          = (do
              let left ← fitting room expr nesting
              chainFrom level (ofCategory room level.operands) left rest)

/-- Where what has been read is at its end, the tree is all that is read. -/
theorem Reads.whole {category : Category} {tokens : List Token} {expr : Expr} {nesting : Nat}
    (reads : Reads category tokens expr nesting) (room : Nat) {rest : TokenStream}
    (settled : rest.settle = .ok rest) (closed : rest.Closes category)
    : ofCategory room category (prepend tokens rest)
      = (do
          let operand ← fitting room expr nesting
          return (operand, rest)) := by
  cases category with
  | factor => exact reads room rest settled
  | chain level =>
      obtain ⟨ended, closed⟩ := closes_chain.mp closed
      -- The chain could go on only with an operator, and none follows.
      rw [reads room rest settled closed]
      congr 1
      funext left
      exact chainFrom_closed ended

/-- A factor under a sign or a function, by the reader of the factor inside. -/
theorem reads_withNode {tokens : List Token} {expr : Expr} {nesting : Nat}
    {front : Token} {node : Expr → Expr}
    (step
      : ∀ room rest,
          rest.settle = .ok rest
          → factor (room + 1) (.token front rest)
            = (do
                let (operand, rest) ← factor room rest
                return (← operand.withNode node, rest)))
    (full : ∀ rest, factor 0 (.token front rest) = .error (.nestingTooDeep maxNesting))
    (higher : (node expr).height = expr.height + 1) (same : (node expr).vars = expr.vars)
    (inner : Reads .factor tokens expr nesting)
    : Reads .factor (front :: tokens) (node expr) (nesting + 1) := by
  intro room rest settled
  rw [prepend_cons]
  cases room with
  | zero => rw [full, fitting_zero, error_bind]
  | succ room =>
      rw [step room _ (settle_prepend settled), inner room rest settled,
        ← fitting_withNode higher same]
      simp only [bind_assoc, pure_eq_ok, ok_bind]

/-- Tokens which derive a tree are read as the grammar says, by induction on the
derivation.
-/
theorem reads_of_derives {category : Category} {tokens : List Token} {expr : Expr}
    {nesting : Nat} (derived : Derives category tokens expr nesting)
    : Reads category tokens expr nesting := by
  induction derived with
  | number value =>
      intro room rest settled
      cases room with
      | zero => simp [factor, fitting_zero]
      | succ room =>
          simp [factor, settled, fitting_number]
  | var index =>
      intro room rest settled
      cases room with
      | zero => simp [factor, fitting_zero]
      | succ room =>
          simp [factor, settled, fitting_var]
  | constant name =>
      intro room rest settled
      cases room with
      | zero => simp [factor, fitting_zero]
      | succ room =>
          simp [factor, settled, fitting_constant, expect]
  | @signed op sign tokens expr nesting isSign operand ih =>
      refine reads_withNode ?_ (fun _ => rfl) rfl (Expr.vars_signed sign expr) ih
      intro room rest settled
      simp [factor, isSign, settled]
  | @call name tokens expr nesting argument ih =>
      refine reads_withNode ?_ (fun _ => rfl) rfl (Expr.vars_call name expr) ih
      intro room rest settled
      simp [factor, settled]
  | @parens tokens expr nesting inner ih =>
      intro room rest settled
      cases room with
      | zero => simp [factor, fitting_zero]
      | succ room =>
          -- The closing parenthesis ends the expression inside.
          have closed : (TokenStream.token .rightParen rest).Closes (.chain .additive) :=
            closes_of_no_operator (by simp) _
          rw [List.cons_append, prepend_cons, prepend_append, prepend_cons, prepend_nil, factor,
            settle_prepend (settle_token _ _), ok_bind, expression_factor,
            ih.whole room rfl closed, fitting_succ]
          simp [expect, settled]
  | @single level tokens expr nesting operand ih =>
      intro room rest settled closed
      rw [ofCategory_chain, chain, ih.whole room settled closed]
      simp
  | @join op before after left right outer inner first last ihFirst ihLast =>
      intro room rest settled closed
      -- The chain on the left is read up to the operator and goes on with it.
      rw [prepend_append, prepend_cons, ihFirst room _ rfl (closes_operands op _),
        ← fitting_join op left right room outer inner]
      simp only [bind_assoc]
      congr 1
      funext left
      rw [chainFrom_operator, settle_prepend settled, ok_bind, ihLast.whole room settled closed]
      simp only [bind_assoc, pure_eq_ok, ok_bind]

end Formulary.Reader
