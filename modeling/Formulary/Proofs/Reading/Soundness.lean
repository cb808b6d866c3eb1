import Formulary.Proofs.Reading.Categories
import Formulary.Proofs.Reading.Operands

/-! Whatever is read is derived by the grammar from the tokens taken off the stream. The
operand which comes with the tree has its true height and variables.
-/

namespace Formulary.Reader

open Outcomes Operand TokenStream

/-- What has been read is derived from the tokens between the two streams, and it fits.
The stream left over has no failure in front.
-/
structure Derived (room : Nat) (category : Category) (stream : TokenStream)
    (operand : Operand) (rest : TokenStream) (tokens : List Token) (nesting : Nat)
    : Prop where
  taken : stream = prepend tokens rest
  settled : rest.settle = .ok rest
  derives : Derives category tokens operand.expr nesting
  fits : fitting room operand.expr nesting = .ok operand

/-- A reader takes nothing but what its category derives. -/
def Sound (room : Nat) (category : Category) : Prop :=
  ∀ stream operand rest,
    ofCategory room category stream = .ok (operand, rest)
    → ∃ tokens nesting, Derived room category stream operand rest tokens nesting

/-- Taking a parenthesis leaves the stream behind it, without a failure in front. -/
theorem expect_eq_ok {token : Token} {expected : Expectation} {stream rest : TokenStream}
    (taken : expect token expected stream = .ok rest)
    : stream = .token token rest ∧ rest.settle = .ok rest := by
  unfold expect at taken
  split at taken
  · rename_i found behind
    split at taken
    · rename_i same
      obtain ⟨rfl, settled⟩ := settle_eq_ok taken
      exact ⟨by rw [same], settled⟩
    · cases taken
  · cases taken
  · cases taken

/-- A tree grows by whole operations. Induction is on the run of the chain, and what was
read before stays in front of what is read next.
-/
theorem chainFrom_sound {room : Nat} {level : Precedence}
    (operands : Sound room level.operands) {left tree : Operand} {stream rest : TokenStream}
    {before : List Token} {outer : Nat}
    (read : chainFrom level (ofCategory room level.operands) left stream = .ok (tree, rest))
    (settled : stream.settle = .ok stream)
    (derives : Derives (.chain level) before left.expr outer)
    (fits : fitting room left.expr outer = .ok left)
    : ∃ after nesting,
        stream = prepend after rest
        ∧ rest.settle = .ok rest
        ∧ Derives (.chain level) (before ++ after) tree.expr nesting
        ∧ fitting room tree.expr nesting = .ok tree := by
  fun_induction chainFrom level (ofCategory room level.operands) left stream
    generalizing before outer with
  | case1 left stream ended =>
      cases read
      exact ⟨[], outer, rfl, settled, by simpa using derives, fits⟩
  | case2 left stream op behind front ih =>
      obtain ⟨same, rfl⟩ := operator?_eq_some.mp front
      subst same
      obtain ⟨next, passed, readNext⟩ := bind_eq_ok_iff.mp read
      obtain ⟨rfl, _⟩ := settle_eq_ok passed
      obtain ⟨⟨right, remaining⟩, readRight, continued⟩ := bind_eq_ok_iff.mp readNext
      obtain ⟨tokens, inner, last⟩ := operands _ _ _ readRight
      simp only at continued
      split at continued
      · cases continued
      · rename_i joined joins
        have whole : fitting room (.binary op left.expr right.expr) (max outer inner)
            = .ok joined := by
          rw [← fitting_join, fits, ok_bind, last.fits, ok_bind, joins]
        have same : joined.expr = .binary op left.expr right.expr :=
          congrArg Operand.expr (fitting_eq_ok whole).1
        -- The joined operand takes the place of the left one for the rest of the run.
        have grown := Derives.join derives last.derives
        rw [← same] at grown whole
        obtain ⟨after, nesting, taken, settled, derives, fits⟩ :=
          ih right remaining joined joins continued last.settled grown whole
        refine ⟨.operator op :: tokens ++ after, nesting, ?_, settled, ?_, fits⟩
        · rw [last.taken, taken, List.cons_append, prepend_cons, prepend_append]
        · simpa [List.append_assoc] using derives

/-- A chain is sound if the reader of its operands is. -/
theorem sound_chain {room : Nat} {level : Precedence} (operands : Sound room level.operands)
    : Sound room (.chain level) := by
  intro stream operand rest read
  rw [ofCategory_chain] at read
  obtain ⟨⟨left, remaining⟩, readLeft, continued⟩ := bind_eq_ok_iff.mp read
  obtain ⟨tokens, outer, first⟩ := operands _ _ _ readLeft
  obtain ⟨after, nesting, taken, settled, derives, fits⟩ :=
    chainFrom_sound operands continued first.settled (.single first.derives) first.fits
  refine ⟨tokens ++ after, nesting, ?_, settled, derives, fits⟩
  rw [first.taken, taken, prepend_append]

/-- An expression is sound if its factors are. -/
theorem sound_expression {room : Nat} (factors : Sound room .factor)
    : Sound room (.chain .additive) :=
  have powers : Sound room (.chain .exponential) := sound_chain factors
  have terms : Sound room (.chain .multiplicative) := sound_chain powers
  sound_chain terms

/-- A sign or a function in front of a factor, given that the factor is sound. -/
theorem sound_withNode {room : Nat} (factors : Sound room .factor) {front : Token}
    {behind rest : TokenStream} {tree : Operand} {node : Expr → Expr}
    (higher : ∀ expr, (node expr).height = expr.height + 1)
    (same : ∀ expr, (node expr).vars = expr.vars)
    (derives
      : ∀ {tokens expr nesting},
          Derives .factor tokens expr nesting
          → Derives .factor (front :: tokens) (node expr) (nesting + 1))
    (read
      : (do
          let (operand, rest) ← factor room (← behind.settle)
          return (← operand.withNode node, rest))
        = .ok (tree, rest))
    : ∃ tokens nesting,
        Derived (room + 1) .factor (.token front behind) tree rest tokens nesting := by
  obtain ⟨next, passed, readNext⟩ := bind_eq_ok_iff.mp read
  obtain ⟨rfl, _⟩ := settle_eq_ok passed
  obtain ⟨⟨operand, remaining⟩, readOperand, continued⟩ := bind_eq_ok_iff.mp readNext
  obtain ⟨whole, wrapped, returned⟩ := bind_eq_ok_iff.mp continued
  cases returned
  obtain ⟨tokens, nesting, inner⟩ := factors _ _ _ readOperand
  have fits : fitting (room + 1) (node operand.expr) (nesting + 1) = .ok tree := by
    rw [← fitting_withNode (higher _) (same _), inner.fits, ok_bind, wrapped]
  -- The operand is that of its tree, so its tree is the node over the one inside.
  have tip : tree.expr = node operand.expr := congrArg Operand.expr (fitting_eq_ok fits).1
  refine ⟨front :: tokens, nesting + 1, ?_, inner.settled, ?_, ?_⟩
  · rw [inner.taken, prepend_cons]
  · rw [tip]
    exact derives inner.derives
  · rw [tip]
    exact fits

/-- Every factor is derived from what is taken for it, by induction on the room left. -/
theorem sound_factor (room : Nat) : Sound room .factor := by
  induction room with
  | zero =>
      intro stream operand rest read
      cases stream <;> cases read
  | succ room ih =>
      intro stream operand rest read
      change factor (room + 1) stream = .ok (operand, rest) at read
      -- The cases are those of the first token.
      unfold factor at read
      split at read
      · cases read
      · cases read
      · rename_i value behind
        obtain ⟨next, passed, returned⟩ := bind_eq_ok_iff.mp read
        obtain ⟨rfl, settled⟩ := settle_eq_ok passed
        cases returned
        exact ⟨[.number value], 1, rfl, settled, .number value, fitting_number value room⟩
      · rename_i index behind
        obtain ⟨next, passed, returned⟩ := bind_eq_ok_iff.mp read
        obtain ⟨rfl, settled⟩ := settle_eq_ok passed
        cases returned
        exact ⟨[.var index], 1, rfl, settled, .var index, fitting_var index room⟩
      · rename_i name behind
        obtain ⟨next, passed, opened⟩ := bind_eq_ok_iff.mp read
        obtain ⟨rfl, _⟩ := settle_eq_ok passed
        obtain ⟨inside, open_, closed⟩ := bind_eq_ok_iff.mp opened
        obtain ⟨rfl, _⟩ := expect_eq_ok open_
        obtain ⟨outside, close, returned⟩ := bind_eq_ok_iff.mp closed
        obtain ⟨rfl, settled⟩ := expect_eq_ok close
        cases returned
        exact ⟨_, 1, rfl, settled, .constant name, fitting_constant name room⟩
      · rename_i name behind
        exact sound_withNode ih (fun _ => rfl) (Expr.vars_call name) .call read
      · rename_i behind
        obtain ⟨next, passed, readInner⟩ := bind_eq_ok_iff.mp read
        obtain ⟨rfl, _⟩ := settle_eq_ok passed
        obtain ⟨⟨inner, remaining⟩, readExpression, closed⟩ := bind_eq_ok_iff.mp readInner
        obtain ⟨outside, close, returned⟩ := bind_eq_ok_iff.mp closed
        obtain ⟨rfl, settled⟩ := expect_eq_ok close
        cases returned
        obtain ⟨tokens, nesting, whole⟩ := sound_expression ih _ _ _ readExpression
        refine ⟨_, nesting + 1, ?_, settled, .parens whole.derives, ?_⟩
        · rw [whole.taken, List.cons_append, prepend_cons, prepend_append]
          rfl
        · rw [fitting_succ, whole.fits]
      · rename_i op behind
        split at read
        · rename_i sign isSign
          exact sound_withNode ih (fun _ => rfl) (Expr.vars_signed sign) (.signed isSign) read
        · cases read
      · cases read

/-- Every category is sound. -/
theorem sound_ofCategory (room : Nat) (category : Category) : Sound room category := by
  have factors := sound_factor room
  have powers : Sound room (.chain .exponential) := sound_chain factors
  rcases category with _ | level
  · exact factors
  · cases level with
    | additive => exact sound_expression factors
    | multiplicative => exact sound_chain powers
    | exponential => exact powers

end Formulary.Reader
