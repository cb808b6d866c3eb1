import Formulary.Program
import Formulary.Proofs.Outcomes
import Formulary.Proofs.Reading.Operands

/-! A program computes the expression which it was linked from. Linking succeeds exactly if
every variable of the expression has a slot, and the program reads each variable there.
-/

namespace Formulary

open Outcomes

namespace Expr

/-- A variable is a variable of an operation exactly if it is one of either side. -/
theorem mem_vars_binary {op : Operator} {left right : Expr} {index : UInt64}
    : index ∈ (binary op left right).vars ↔ index ∈ left.vars ∨ index ∈ right.vars := by
  rw [vars_binary, VarSet.mem_union, or_comm]

/-- The variables from left to right, as often as they occur. -/
def occurrences (expr : Expr) : List UInt64 :=
  expr.nodes.filterMap varIndex?

theorem occurrences_binary (op : Operator) (left right : Expr)
    : (binary op left right).occurrences = left.occurrences ++ right.occurrences :=
  List.filterMap_append

end Expr

namespace Program

variable {arity : Nat} {slot? : UInt64 → Option (Fin arity)}

/-- An expression can be linked if each of its variables has a slot, by induction on the
expression.
-/
theorem link_succeeds {expr : Expr}
    (bound : ∀ index ∈ expr.vars, ∃ place, slot? index = some place)
    : ∃ program, link slot? expr = .ok program := by
  induction expr with
  | number value => exact ⟨_, rfl⟩
  | constant name => exact ⟨_, rfl⟩
  | var index =>
      obtain ⟨place, found⟩ := bound index (VarSet.mem_singleton.mpr rfl)
      exact ⟨slot place, by simp [link, found]⟩
  | signed sign operand ih =>
      obtain ⟨program, linked⟩ := ih bound
      exact ⟨.signed sign program, by simp [link, linked]⟩
  | binary op left right ihLeft ihRight =>
      obtain ⟨first, linkedLeft⟩ := ihLeft fun index member =>
        bound index (Expr.mem_vars_binary.mpr (.inl member))
      obtain ⟨last, linkedRight⟩ := ihRight fun index member =>
        bound index (Expr.mem_vars_binary.mpr (.inr member))
      exact ⟨.binary op first last, by simp [link, linkedLeft, linkedRight]⟩
  | call function argument ih =>
      obtain ⟨program, linked⟩ := ih bound
      exact ⟨.call function program, by simp [link, linked]⟩

/-- Every variable of a linked expression has a slot, by induction on the expression. -/
theorem slot_of_link {expr : Expr} {program : Program arity}
    (linked : link slot? expr = .ok program)
    : ∀ index ∈ expr.vars, ∃ place, slot? index = some place := by
  induction expr generalizing program with
  | number value | constant name =>
      intro index member
      exact absurd member VarSet.not_mem_empty
  | var own =>
      intro index member
      cases VarSet.mem_singleton.mp member
      unfold link at linked
      split at linked
      · exact ⟨_, ‹_›⟩
      · cases linked
  | signed sign operand ih =>
      obtain ⟨inner, linkedInner, _⟩ := bind_eq_ok_iff.mp linked
      exact ih linkedInner
  | binary op left right ihLeft ihRight =>
      obtain ⟨first, linkedLeft, linkedRest⟩ := bind_eq_ok_iff.mp linked
      obtain ⟨last, linkedRight, _⟩ := bind_eq_ok_iff.mp linkedRest
      intro index member
      rcases Expr.mem_vars_binary.mp member with inLeft | inRight
      · exact ihLeft linkedLeft index inLeft
      · exact ihRight linkedRight index inRight
  | call function argument ih =>
      obtain ⟨inner, linkedInner, _⟩ := bind_eq_ok_iff.mp linked
      exact ih linkedInner

/-- A linked program has the value of its expression under every assignment which gives
the variables the arguments in their slots, by induction on the expression.
-/
theorem run_of_link {expr : Expr} {program : Program arity}
    (linked : link slot? expr = .ok program) {args : Vector Float arity}
    {assignment : UInt64 → Float}
    (agree
      : ∀ index ∈ expr.vars,
          ∀ place, slot? index = some place → args.get place = assignment index)
    : program.run args = expr.eval assignment := by
  induction expr generalizing program with
  | number value | constant name =>
      cases linked
      rfl
  | var index =>
      unfold link at linked
      split at linked
      · rename_i place found
        cases linked
        exact agree index (VarSet.mem_singleton.mpr rfl) place found
      · cases linked
  | signed sign operand ih =>
      obtain ⟨inner, linkedInner, same⟩ := bind_eq_ok_iff.mp linked
      cases same
      exact congrArg sign.value (ih linkedInner agree)
  | binary op left right ihLeft ihRight =>
      obtain ⟨first, linkedLeft, linkedRest⟩ := bind_eq_ok_iff.mp linked
      obtain ⟨last, linkedRight, same⟩ := bind_eq_ok_iff.mp linkedRest
      cases same
      have valueLeft := ihLeft linkedLeft fun index member =>
        agree index (Expr.mem_vars_binary.mpr (.inl member))
      have valueRight := ihRight linkedRight fun index member =>
        agree index (Expr.mem_vars_binary.mpr (.inr member))
      rw [run, Expr.eval, valueLeft, valueRight]
  | call function argument ih =>
      obtain ⟨inner, linkedInner, same⟩ := bind_eq_ok_iff.mp linked
      cases same
      exact congrArg function.value (ih linkedInner agree)

end Program

end Formulary
