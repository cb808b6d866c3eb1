import Formulary.Proofs.Reading.Categories

/-! A list of tokens derives at most one tree. Of two derivations at the front of one list
the shorter chain is passed through by the longer one, so both are the same where neither
can go on.
-/

namespace Formulary

open TokenStream

/-- From one tree the tokens lead to another by operations of one precedence, taken from
the left.
-/
inductive Continues (level : Precedence) : Expr → Nat → List Token → Expr → Nat → Prop where
  | done (expr : Expr) (nesting : Nat) : Continues level expr nesting [] expr nesting
  | step {op : Operator} {left right expr : Expr} {outer inner nesting : Nat}
    {operand rest : List Token} (same : op.precedence = level)
    (derived : Derives level.operands operand right inner)
    (more : Continues level (.binary op left right) (max outer inner) rest expr nesting)
    : Continues level left outer (.operator op :: (operand ++ rest)) expr nesting

namespace Continues

/-- One more operation at the end. -/
theorem snoc {level : Precedence} {left middle right : Expr} {outer nesting inner : Nat}
    {tokens operand : List Token} {op : Operator}
    (continues : Continues level left outer tokens middle nesting)
    (same : op.precedence = level) (derived : Derives level.operands operand right inner)
    : Continues level left outer (tokens ++ .operator op :: operand)
        (.binary op middle right) (max nesting inner) := by
  induction continues with
  | done expr nesting =>
      have last := Continues.step same derived (.done (.binary op expr right) (max nesting inner))
      simpa using last
  | @step _ _ _ _ _ _ _ tokens rest sameFirst derivedFirst more ih =>
      have longer := Continues.step sameFirst derivedFirst ih
      simpa [List.append_assoc] using longer

/-- What goes on at a precedence begins with an operator of it, unless it is empty. -/
theorem closes {level : Precedence} {left expr : Expr} {outer nesting : Nat}
    {tokens rest : List Token} (continues : Continues level left outer tokens expr nesting)
    (closed : (prepend rest .finish).Closes level.operands)
    : (prepend (tokens ++ rest) .finish).Closes level.operands := by
  cases continues with
  | done => exact closed
  | @step op _ _ _ _ _ _ _ _ same _ _ =>
      subst same
      exact closes_operands op _

/-- Nothing goes on where no operator of the precedence follows. -/
theorem eq_nil {level : Precedence} {left expr : Expr} {outer nesting : Nat}
    {tokens rest : List Token} (continues : Continues level left outer tokens expr nesting)
    (ended : Reader.operator? level (prepend (tokens ++ rest) .finish) = none)
    : tokens = [] ∧ expr = left ∧ nesting = outer := by
  cases continues with
  | done => exact ⟨rfl, rfl, rfl⟩
  | step same _ _ =>
      rw [List.cons_append, prepend_cons, ← same, Reader.operator?_operator] at ended
      cases ended

end Continues

/-- A chain is its first operand and the operations after it, by induction on the
derivation, which adds them at the end.
-/
theorem Derives.first_operand {level : Precedence} {tokens : List Token} {expr : Expr}
    {nesting : Nat} (derived : Derives (.chain level) tokens expr nesting)
    : ∃ before after first outer,
        tokens = before ++ after
        ∧ Derives level.operands before first outer
        ∧ Continues level first outer after expr nesting := by
  generalize chained : Category.chain level = category at derived
  induction derived with
  | @single level' tokens expr nesting operand _ =>
      cases chained
      exact ⟨tokens, [], expr, nesting, by simp, operand, .done expr nesting⟩
  | @join op before after left right outer inner _ last ih _ =>
      cases chained
      obtain ⟨start, rest, first, nesting, same, derived, continues⟩ := ih rfl
      refine ⟨start, rest ++ .operator op :: after, first, nesting, ?_, derived,
        continues.snoc rfl last⟩
      rw [same, List.append_assoc]
  | _ => cases chained

/-- Any second derivation at the front of the same tokens agrees with the first. A factor
ends by itself. A chain is passed through by a second one which is at its end, if no
operator which binds more tightly follows the first.
-/
def Determined : Category → List Token → Expr → Nat → Prop
  | .factor, tokens, expr, nesting =>
      ∀ tokens' expr' nesting' rest rest',
        Derives .factor tokens' expr' nesting'
        → tokens ++ rest = tokens' ++ rest'
        → tokens = tokens' ∧ expr = expr' ∧ nesting = nesting'
  | .chain level, tokens, expr, nesting =>
      ∀ tokens' expr' nesting' rest rest',
        Derives (.chain level) tokens' expr' nesting'
        → tokens ++ rest = tokens' ++ rest'
        → (prepend rest .finish).Closes level.operands
        → (prepend rest' .finish).Closes (.chain level)
        → ∃ after, tokens' = tokens ++ after ∧ Continues level expr nesting after expr' nesting'

/-- Two derivations at the front of the same tokens are equal if neither can go on. -/
theorem Determined.whole {category : Category} {tokens tokens' rest rest' : List Token}
    {expr expr' : Expr} {nesting nesting' : Nat}
    (determined : Determined category tokens expr nesting)
    (derived : Derives category tokens' expr' nesting')
    (same : tokens ++ rest = tokens' ++ rest')
    (closed : (prepend rest .finish).Closes category)
    (closed' : (prepend rest' .finish).Closes category)
    : tokens = tokens' ∧ expr = expr' ∧ nesting = nesting' := by
  cases category with
  | factor => exact determined _ _ _ _ _ derived same
  | chain level =>
      obtain ⟨ended, tight⟩ := closes_chain.mp closed
      -- The second derivation passes through the first, and nothing is left to go on with.
      obtain ⟨after, rfl, continues⟩ := determined _ _ _ _ _ derived same tight closed'
      have behind : rest = after ++ rest' := by simpa using same
      rw [behind] at ended
      obtain ⟨rfl, rfl, rfl⟩ := continues.eq_nil ended
      simp

/-- Parenthesised expressions end at the parenthesis which closes them. -/
theorem closes_rightParen (rest : List Token) (category : Category)
    : (prepend (.rightParen :: rest) .finish).Closes category :=
  closes_of_no_operator (by simp) category

/-- Every derivation is determined by its tokens, by induction on it and by cases on the
second one.
-/
theorem Derives.determined {category : Category} {tokens : List Token} {expr : Expr}
    {nesting : Nat} (derived : Derives category tokens expr nesting)
    : Determined category tokens expr nesting := by
  induction derived with
  | number value | var index | constant name =>
      intro tokens' expr' nesting' rest rest' second same
      cases second <;> simp_all
  | @signed op sign tokens expr nesting isSign operand ih =>
      intro tokens' expr' nesting' rest rest' second same
      cases second with
      | signed isSign' operand' =>
          simp only [List.cons_append, List.cons.injEq, Token.operator.injEq] at same
          obtain ⟨rfl, same⟩ := same
          obtain ⟨rfl, rfl, rfl⟩ := ih _ _ _ _ _ operand' same
          cases isSign.symm.trans isSign'
          exact ⟨rfl, rfl, rfl⟩
      | _ => simp at same
  | @call name tokens expr nesting argument ih =>
      intro tokens' expr' nesting' rest rest' second same
      cases second with
      | call argument' =>
          simp only [List.cons_append, List.cons.injEq, Token.function.injEq] at same
          obtain ⟨rfl, same⟩ := same
          obtain ⟨rfl, rfl, rfl⟩ := ih _ _ _ _ _ argument' same
          exact ⟨rfl, rfl, rfl⟩
      | _ => simp at same
  | @parens tokens expr nesting inner ih =>
      intro tokens' expr' nesting' rest rest' second same
      cases second with
      | parens inner' =>
          simp only [List.cons_append, List.append_assoc, List.cons.injEq, true_and,
            List.nil_append] at same
          obtain ⟨rfl, rfl, rfl⟩ :=
            ih.whole inner' same (closes_rightParen _ _) (closes_rightParen _ _)
          exact ⟨rfl, rfl, rfl⟩
      | _ => simp at same
  | @single level tokens expr nesting operand ih =>
      intro tokens' expr' nesting' rest rest' second same closed closed'
      -- The second chain begins with an operand too, which is the first one.
      obtain ⟨before, after, first, outer, rfl, derived, continues⟩ := second.first_operand
      rw [List.append_assoc] at same
      obtain ⟨rfl, rfl, rfl⟩ :=
        ih.whole derived same closed (continues.closes (closes_chain.mp closed').2)
      exact ⟨after, rfl, continues⟩
  | @join op before after left right outer inner first last ihFirst ihLast =>
      intro tokens' expr' nesting' rest rest' second same closed closed'
      rw [List.append_assoc, List.cons_append] at same
      obtain ⟨middle, rfl, continues⟩ :=
        ihFirst _ _ _ _ _ second same (closes_operands op _) closed'
      rw [List.append_assoc, List.append_cancel_left_eq] at same
      -- The second chain cannot end in front of the operator.
      cases continues with
      | done =>
          obtain ⟨ended, _⟩ := closes_chain.mp closed'
          rw [List.nil_append] at same
          rw [← same, prepend_cons, Reader.operator?_operator] at ended
          cases ended
      | @step op' _ right' _ _ inner' _ operand remaining sameLevel derived more =>
          simp only [List.cons_append, List.append_assoc, List.cons.injEq,
            Token.operator.injEq] at same
          obtain ⟨rfl, same⟩ := same
          obtain ⟨rfl, rfl, rfl⟩ :=
            ihLast.whole derived same closed (more.closes (closes_chain.mp closed').2)
          exact ⟨remaining, by simp [List.append_assoc], more⟩

/-- The tokens of a whole category derive one tree with one nesting. -/
theorem Derives.unique {category : Category} {tokens : List Token} {expr expr' : Expr}
    {nesting nesting' : Nat} (first : Derives category tokens expr nesting)
    (second : Derives category tokens expr' nesting')
    : expr = expr' ∧ nesting = nesting' := by
  have closed : (prepend [] .finish).Closes category := closes_of_no_operator (by simp) category
  exact (first.determined.whole second rfl closed closed).2

end Formulary
