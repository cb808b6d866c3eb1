import Formulary.Proofs.Printing.PrintedTokens
import Formulary.Proofs.Reading.Exactness

/-! The tree which a printed tree is read as. Only negative literals are not read as they
were, since a minus sign in front of a literal is a sign and no part of it.
-/

namespace Formulary

namespace Expr

/-- The tree with a sign in front of the magnitude for every negative literal. -/
def spelledOut : Expr → Expr
  | number value =>
      if value.isNegative then signed .minus (number value.magnitude) else number value
  | var index => var index
  | constant name => constant name
  | signed sign operand => signed sign operand.spelledOut
  | binary op left right => binary op left.spelledOut right.spelledOut
  | call function argument => call function argument.spelledOut

/-- How deeply the factors of the text nest: operations and arguments are in parentheses.
-/
def printedDepth : Expr → Nat
  | number value => if value.isNegative then 2 else 1
  | var _ | constant _ => 1
  | signed _ operand => 1 + operand.printedDepth
  | binary _ left right => 1 + max left.printedDepth right.printedDepth
  | call _ argument => 2 + argument.printedDepth

theorem isSign_operator (sign : Sign) : sign.operator.sign? = some sign := by
  cases sign <;> rfl

end Expr

/-- A chain of any level is one of additive level, alone. -/
theorem Derives.additive_of_chain {level : Precedence} {tokens : List Token} {expr : Expr}
    {nesting : Nat} (derived : Derives (.chain level) tokens expr nesting)
    : Derives (.chain .additive) tokens expr nesting := by
  cases level with
  | additive => exact derived
  | multiplicative => exact .single derived
  | exponential =>
      have term : Derives (.chain .multiplicative) tokens expr nesting := .single derived
      exact .single term

/-- A factor alone is a chain of any level. -/
theorem Derives.chain_of_factor {tokens : List Token} {expr : Expr} {nesting : Nat}
    (derived : Derives .factor tokens expr nesting) (level : Precedence)
    : Derives (.chain level) tokens expr nesting := by
  have powers : Derives (.chain .exponential) tokens expr nesting := .single derived
  have terms : Derives (.chain .multiplicative) tokens expr nesting := .single powers
  cases level with
  | exponential => exact powers
  | multiplicative => exact terms
  | additive => exact .single terms

/-- A factor alone can be an operand at any level. -/
theorem Derives.operand_of_factor {tokens : List Token} {expr : Expr} {nesting : Nat}
    (derived : Derives .factor tokens expr nesting) (level : Precedence)
    : Derives level.operands tokens expr nesting := by
  cases level with
  | exponential => exact derived
  | multiplicative => exact derived.chain_of_factor .exponential
  | additive => exact derived.chain_of_factor .multiplicative

namespace Expr

/-- The tokens of the text derive the tree as one factor, by induction on the tree. -/
theorem derives_tokens (expr : Expr)
    : Derives .factor expr.tokens expr.spelledOut expr.printedDepth := by
  induction expr with
  | number value =>
      unfold tokens spelledOut printedDepth
      split
      · exact .signed rfl (.number value.magnitude)
      · exact .number value
  | var index => exact .var index
  | constant name => exact .constant name
  | signed sign operand ih =>
      rw [printedDepth, Nat.add_comm]
      exact .signed (isSign_operator sign) ih
  | binary op left right leftIh rightIh =>
      have joined
          : Derives (.chain op.precedence) (left.tokens ++ .operator op :: right.tokens)
              (.binary op left.spelledOut right.spelledOut)
              (max left.printedDepth right.printedDepth) :=
        .join (leftIh.chain_of_factor _) (rightIh.operand_of_factor _)
      have inner := Derives.parens (joined.additive_of_chain)
      rw [printedDepth, Nat.add_comm]
      simpa [tokens, spelledOut] using inner
  | call function argument ih =>
      have inner := Derives.parens (ih.chain_of_factor .additive)
      rw [printedDepth, Nat.add_comm]
      exact .call inner

/-- The tree is no higher than the factors nest. -/
theorem height_spelledOut_le (expr : Expr) : expr.spelledOut.height ≤ expr.printedDepth := by
  induction expr with
  | number value =>
      unfold spelledOut printedDepth
      split <;> exact Nat.le_refl _
  | var index => exact Nat.le_refl _
  | constant name => exact Nat.le_refl _
  | signed sign operand ih =>
      simp only [spelledOut, height, printedDepth]
      omega
  | binary op left right leftIh rightIh =>
      simp only [spelledOut, height, printedDepth]
      omega
  | call function argument ih =>
      simp only [spelledOut, height, printedDepth]
      omega

theorem vars_spelledOut (expr : Expr) : expr.spelledOut.vars = expr.vars := by
  induction expr with
  | number value =>
      unfold spelledOut
      split <;> rfl
  | var index => rfl
  | constant name => rfl
  | signed sign operand ih => rw [spelledOut, vars_signed, vars_signed, ih]
  | binary op left right leftIh rightIh =>
      rw [spelledOut, vars_binary, vars_binary, leftIh, rightIh]
  | call function argument ih => rw [spelledOut, vars_call, vars_call, ih]

/-- A sign in front of the magnitude is as good as the negative literal. -/
theorem eval_spelledOut {expr : Expr} (finite : expr.IsFinite) (assignment : UInt64 → Float)
    : expr.spelledOut.eval assignment = expr.eval assignment := by
  induction expr with
  | number value =>
      unfold spelledOut
      split
      · rename_i negative
        exact Number.neg_toFloat_magnitude (isFinite_number.mp finite) negative
      · rfl
  | var index => rfl
  | constant name => rfl
  | signed sign operand ih => rw [spelledOut, eval, eval, ih (isFinite_signed.mp finite)]
  | binary op left right leftIh rightIh =>
      obtain ⟨leftFinite, rightFinite⟩ := isFinite_binary.mp finite
      rw [spelledOut, eval, eval, leftIh leftFinite, rightIh rightFinite]
  | call function argument ih => rw [spelledOut, eval, eval, ih (isFinite_call.mp finite)]

end Expr

end Formulary
