import Formulary.Proofs.Loading.Linking
import Formulary.Proofs.Reading.Exactness
import Formulary.Proofs.Reading.HandedVariables
import Formulary.SourceUnit

/-! The variables of a formula, found in three ways: by the reader on its way, in the tree, and
among the tokens. A derivation moves no token, so the tree has the variables of its tokens in the
same order and as often.
-/

namespace Formulary

namespace Token

/-- The index of a token which is a variable. -/
def varIndex? : Token → Option UInt64
  | var index => some index
  | _ => none

/-- The variables among tokens, as often as they occur. -/
def occurrences (tokens : List Token) : List UInt64 :=
  tokens.filterMap varIndex?

theorem occurrences_append (before after : List Token)
    : occurrences (before ++ after) = occurrences before ++ occurrences after :=
  List.filterMap_append

/-- A token which is no variable does not count. -/
theorem occurrences_cons_of_none {head : Token} (other : head.varIndex? = none)
    (rest : List Token)
    : occurrences (head :: rest) = occurrences rest :=
  List.filterMap_cons_none other

theorem mem_occurrences {index : UInt64} {tokens : List Token}
    : index ∈ occurrences tokens ↔ .var index ∈ tokens := by
  rw [occurrences, List.mem_filterMap]
  constructor
  · rintro ⟨token, member, found⟩
    cases token <;> cases found
    exact member
  · exact fun member => ⟨_, member, rfl⟩

end Token

namespace Derives

open Token

/-- A tree has the variables of the tokens from which it is derived, in their order, by induction
on the derivation.
-/
theorem occurrences_eq {category : Category} {tokens : List Token} {expr : Expr} {nesting : Nat}
    (derived : Derives category tokens expr nesting)
    : expr.occurrences = occurrences tokens := by
  induction derived with
  | number value => rfl
  | var index => rfl
  | constant name => rfl
  | signed isSign operand ih => exact ih
  | call argument ih => exact ih
  | @parens tokens expr nesting inner ih =>
      rw [List.cons_append, occurrences_cons_of_none rfl, occurrences_append, ← ih]
      exact (List.append_nil _).symm
  | single operand ih => exact ih
  | @join op before after left right outer inner first last ihFirst ihLast =>
      rw [Expr.occurrences_binary, ihFirst, ihLast, occurrences_append,
        occurrences_cons_of_none rfl]

end Derives

namespace Formula

/-- The reader collects exactly the variables of the tree, which are those among the tokens, in
their order and as often. It makes no difference that it is handed the ones met before. There is
one parameter for each of these indices, which takes its value and has its name, in ascending
order.
-/
theorem parse_collects_vars {text : String} {formula : Formula} (read : parse text = .ok formula)
    : Collector.formula (.ofCursor (.ofFormula text)) = .ok formula
      ∧ formula.vars = formula.expr.vars
      ∧ (∃ tokens,
          tokenize text = .ok tokens
          ∧ formula.expr.occurrences = Token.occurrences tokens
          ∧ ∀ index, index ∈ formula.vars ↔ .var index ∈ tokens)
      ∧ ∃ indices : List UInt64,
          formula.params.map Param.boundTo = indices.map some
          ∧ formula.params.map Param.name = indices.map (fun index => "x" ++ toString index)
          ∧ indices.Pairwise (· < ·)
          ∧ ∀ index, index ∈ indices ↔ index ∈ formula.vars := by
  obtain ⟨tokens, _, lexed, derived, _, _, whole⟩ := parse_eq_ok_iff.mp read
  have same : formula.vars = formula.expr.vars := congrArg Formula.vars whole
  have listed := derived.occurrences_eq
  refine ⟨(Collector.formula_eq_ofStream _).trans read, same,
    ⟨tokens, lexed, listed, fun index => ?_⟩,
    formula.vars.toList, ?_, ?_, formula.vars.ascending, fun _ => Iff.rfl⟩
  · rw [same, Expr.mem_vars, ← Token.mem_occurrences, ← listed]
    rfl
  · exact List.map_map
  · exact List.map_map

/-- A variable which comes first and occurs twice is one parameter, in its place. -/
theorem parse_collects_vars_repeated
    : let text := "X3 + SIN(x1*X3)"
      let expr := Expr.binary .add (.var 3) (.call .sin (.binary .multiply (.var 1) (.var 3)))
      parse text = .ok (ofExpr expr)
      ∧ Collector.formula (.ofCursor (.ofFormula text)) = .ok (ofExpr expr)
      ∧ (∃ tokens, tokenize text = .ok tokens ∧ Token.occurrences tokens = [3, 1, 3])
      ∧ (ofExpr expr).params.map Param.boundTo = [some 1, some 3]
      ∧ (ofExpr expr).params.map Param.name = ["x1", "x3"]
      ∧ ∃ indices : List UInt64,
          (ofExpr expr).params.map Param.boundTo = indices.map some
          ∧ (ofExpr expr).params.map Param.name = indices.map (fun index => "x" ++ toString index)
          ∧ indices.Pairwise (· < ·)
          ∧ ∀ index, index ∈ indices ↔ index = 1 ∨ index = 3 := by
  intro text expr
  have read : parse text = .ok (ofExpr expr) := by cbv
  obtain ⟨collected, _, ⟨tokens, lexed, listed, _⟩, indices, bound, named, ascending, members⟩ :=
    parse_collects_vars read
  have pair (index : UInt64) : index ∈ (ofExpr expr).vars ↔ index = 1 ∨ index = 3 := by
    have set : (ofExpr expr).vars.toList = [1, 3] := by decide
    change index ∈ (ofExpr expr).vars.toList ↔ _
    simp [set]
  exact ⟨read, collected, ⟨tokens, lexed, listed.symm⟩, by decide, by decide, indices, bound, named,
    ascending, fun index => (members index).trans (pair index)⟩

end Formula

end Formulary
