import Formulary.Elementary
import Formulary.Number
import Formulary.Operator
import Formulary.VarSet

/-! Expression trees and what can be read off them. -/

namespace Formulary

/-- The tree of a formula. Parentheses leave no trace in it. -/
inductive Expr where
  | number (value : Number)
  | var (index : UInt64)
  | constant (name : NamedConstant)
  | signed (sign : Sign) (operand : Expr)
  | binary (op : Operator) (left right : Expr)
  | call (function : ElementaryFunction) (argument : Expr)
deriving DecidableEq

namespace Expr

/-- All nodes, every node before those below it and the left ones before the right ones.
-/
def nodes : Expr → List Expr
  | number value => [number value]
  | var index => [var index]
  | constant name => [constant name]
  | signed sign operand => signed sign operand :: operand.nodes
  | binary op left right => binary op left right :: (left.nodes ++ right.nodes)
  | call function argument => call function argument :: argument.nodes

/-- The number of nodes on the longest way down. -/
def height : Expr → Nat
  | number _ | var _ | constant _ => 1
  | signed _ operand => operand.height + 1
  | binary _ left right => max left.height right.height + 1
  | call _ argument => argument.height + 1

/-- The index of a node which is a variable. -/
def varIndex? : Expr → Option UInt64
  | var index => some index
  | _ => none

/-- The variables of the tree. -/
def vars (expr : Expr) : VarSet :=
  VarSet.ofList (expr.nodes.filterMap varIndex?)

/-- The node has a value only once the math namespace is imported. -/
def needsMath : Expr → Bool
  | constant _ => true
  | call function _ => function.needsMath
  | _ => false

/-- Some node of the tree needs the math namespace. -/
def usesMath (expr : Expr) : Bool :=
  expr.nodes.any needsMath

/-- The value of the tree when every variable has its value from the assignment. -/
def eval (assignment : UInt64 → Float) : Expr → Float
  | number value => value.toFloat
  | var index => assignment index
  | constant name => name.value
  | signed sign operand => sign.value (operand.eval assignment)
  | binary op left right => op.value (left.eval assignment) (right.eval assignment)
  | call function argument => function.value (argument.eval assignment)

/-- The tree as formula text, with parentheses around every operation. -/
def text : Expr → String
  | number value => value.text
  | var index => "x" ++ index.toNat.repr
  | constant name => name.name.toUpper ++ "()"
  | signed sign operand => String.singleton sign.symbol ++ operand.text
  | binary op left right =>
      "(" ++ left.text ++ " " ++ String.singleton op.symbol ++ " " ++ right.text ++ ")"
  | call function argument => function.name.toUpper ++ "(" ++ argument.text ++ ")"

end Expr

end Formulary
