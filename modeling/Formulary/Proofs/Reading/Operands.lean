import Formulary.Proofs.Outcomes
import Formulary.Reader

/-! The operand which belongs to a tree, and the trees which are not too deep to be read.
A tree fits if its factors nest no deeper than there is room for and it is no higher than
any tree may be.
-/

namespace Formulary

namespace VarSet

theorem nodup (set : VarSet) : set.toList.Nodup :=
  set.ascending.imp fun less => UInt64.ne_of_lt less

/-- Two sets with the same members are the same, since both are ascending. -/
theorem ext {left right : VarSet} (same : ∀ member, member ∈ left ↔ member ∈ right)
    : left = right := by
  have perm : left.toList.Perm right.toList :=
    (List.perm_ext_iff_of_nodup left.nodup right.nodup).mpr same
  have lists : left.toList = right.toList :=
    perm.eq_of_pairwise
      (fun first second _ _ less greater =>
        absurd (UInt64.lt_trans less greater) (UInt64.lt_irrefl first))
      left.ascending right.ascending
  cases left
  cases right
  cases lists
  rfl

end VarSet

namespace Expr

/-- A variable is a member of the variables exactly if some node is that variable. -/
theorem mem_vars {expr : Expr} {index : UInt64}
    : index ∈ expr.vars ↔ index ∈ expr.nodes.filterMap varIndex? :=
  VarSet.mem_ofList

/-- A sign adds no variable. -/
theorem vars_signed (sign : Sign) (operand : Expr) : (signed sign operand).vars = operand.vars :=
  rfl

/-- A function adds no variable. -/
theorem vars_call (function : ElementaryFunction) (argument : Expr)
    : (call function argument).vars = argument.vars :=
  rfl

/-- An operation has the variables of both sides. -/
theorem vars_binary (op : Operator) (left right : Expr)
    : (binary op left right).vars = left.vars.union right.vars := by
  have list
      : (binary op left right).nodes.filterMap varIndex?
        = left.nodes.filterMap varIndex? ++ right.nodes.filterMap varIndex? :=
    List.filterMap_append
  apply VarSet.ext
  intro member
  rw [VarSet.mem_union, mem_vars, mem_vars, mem_vars, list, List.mem_append]
  exact or_comm

end Expr

namespace Operand

open Outcomes

/-- The operand which is the tree with its true height and variables. -/
def ofExpr (expr : Expr) : Operand :=
  { expr := expr, height := expr.height, vars := expr.vars }

/-- The operand of a tree whose factors nest so deeply, where there is room for so many
factors, or the failure which such a tree ends in.
-/
def fitting (room : Nat) (expr : Expr) (nesting : Nat) : Except Error Operand :=
  if nesting ≤ room ∧ expr.height ≤ maxNesting then .ok (ofExpr expr)
  else .error (.nestingTooDeep maxNesting)

/-- A tree within both limits fits. -/
theorem fitting_of_le {room nesting : Nat} {expr : Expr} (nested : nesting ≤ room)
    (low : expr.height ≤ maxNesting)
    : fitting room expr nesting = .ok (ofExpr expr) :=
  if_pos ⟨nested, low⟩

/-- A tree beyond either limit does not fit. -/
theorem fitting_of_not_le {room nesting : Nat} (expr : Expr)
    (beyond : ¬(nesting ≤ room ∧ expr.height ≤ maxNesting))
    : fitting room expr nesting = .error (.nestingTooDeep maxNesting) :=
  if_neg beyond

/-- Nothing which nests fits where there is no room. -/
theorem fitting_zero {nesting : Nat} (expr : Expr)
    : fitting 0 expr (nesting + 1) = .error (.nestingTooDeep maxNesting) :=
  fitting_of_not_le _ (by omega)

/-- A tree of one node fits as soon as there is any room. -/
theorem fitting_leaf {expr : Expr} (single : expr.height = 1) (room : Nat)
    : fitting (room + 1) expr 1 = .ok (ofExpr expr) :=
  fitting_of_le (by omega) (by simp [single, maxNesting])

/-- A number fits as soon as there is any room. -/
theorem fitting_number (value : Number) (room : Nat)
    : fitting (room + 1) (.number value) 1 = .ok (leaf (.number value)) :=
  fitting_leaf rfl room

/-- A constant fits as soon as there is any room. -/
theorem fitting_constant (name : NamedConstant) (room : Nat)
    : fitting (room + 1) (.constant name) 1 = .ok (leaf (.constant name)) :=
  fitting_leaf rfl room

/-- A variable fits as soon as there is any room. -/
theorem fitting_var (index : UInt64) (room : Nat)
    : fitting (room + 1) (.var index) 1 = .ok (var index) :=
  fitting_leaf rfl room

/-- What fits is the operand of its tree, within both limits. -/
theorem fitting_eq_ok {room nesting : Nat} {expr : Expr} {operand : Operand}
    (fits : fitting room expr nesting = .ok operand)
    : operand = ofExpr expr ∧ nesting ≤ room ∧ expr.height ≤ maxNesting := by
  unfold fitting at fits
  split at fits
  · rename_i within
    cases fits
    exact ⟨rfl, within⟩
  · cases fits

/-- Parentheses take room and leave the tree as it is. -/
theorem fitting_succ (room nesting : Nat) (expr : Expr)
    : fitting (room + 1) expr (nesting + 1) = fitting room expr nesting := by
  simp [fitting]

/-- One more node on top makes the tree higher by one and keeps its variables. -/
theorem fitting_withNode {room nesting : Nat} {expr : Expr} {node : Expr → Expr}
    (higher : (node expr).height = expr.height + 1) (same : (node expr).vars = expr.vars)
    : (fitting room expr nesting >>= fun operand => operand.withNode node)
      = fitting (room + 1) (node expr) (nesting + 1) := by
  by_cases nested : nesting ≤ room
  · by_cases low : expr.height + 1 ≤ maxNesting
    · -- Both the operand and the node above it fit.
      rw [fitting_of_le nested (by omega), fitting_of_le (by omega) (by omega)]
      simp [withNode, heightOver, ofExpr, higher, same, Nat.not_le.mpr low]
    · -- The node is too high, whether or not the operand is.
      rw [fitting_of_not_le (node expr) (by omega)]
      by_cases top : expr.height ≤ maxNesting
      · rw [fitting_of_le nested top]
        have full : maxNesting ≤ expr.height := by omega
        simp [withNode, heightOver, ofExpr, full]
      · rw [fitting_of_not_le _ (by omega)]
        rfl
  · rw [fitting_of_not_le _ (by omega), fitting_of_not_le _ (by omega)]
    rfl

/-- Two sides which fit are joined into one more level, which fits if it is not too high.
-/
theorem fitting_join (op : Operator) (left right : Expr) (room outer inner : Nat)
    : (do
        let first ← fitting room left outer
        let last ← fitting room right inner
        first.join op last)
      = fitting room (.binary op left right) (max outer inner) := by
  have height : (Expr.binary op left right).height = max left.height right.height + 1 := rfl
  by_cases first : outer ≤ room ∧ left.height ≤ maxNesting
  · rw [fitting_of_le first.1 first.2, ok_bind]
    by_cases last : inner ≤ room ∧ right.height ≤ maxNesting
    · rw [fitting_of_le last.1 last.2, ok_bind]
      by_cases low : max left.height right.height + 1 ≤ maxNesting
      · rw [fitting_of_le (by omega) (by omega)]
        simp [join, heightOver, ofExpr, Nat.not_le.mpr low, height, Expr.vars_binary]
      · rw [fitting_of_not_le _ (by omega)]
        have full : maxNesting ≤ max left.height right.height := by omega
        simp [join, heightOver, ofExpr, full]
    · rw [fitting_of_not_le _ last, fitting_of_not_le (.binary op left right) (by omega),
        error_bind]
  · rw [fitting_of_not_le _ first, fitting_of_not_le (.binary op left right) (by omega),
      error_bind]

/-- Operands are joined into the operation on their trees. -/
theorem expr_of_join {op : Operator} {left right tree : Operand}
    (joined : join op left right = .ok tree)
    : tree.expr = .binary op left.expr right.expr := by
  obtain ⟨_, _, returned⟩ := bind_eq_ok_iff.mp joined
  cases returned
  rfl

end Operand

end Formulary
