import Formulary.Expr.Basic
import Formulary.Text.Outline

/-! The outline of an expression tree. -/

namespace Formulary

open Text (Outline)

/-- The name of a sign in outlines and JSON. -/
def Sign.title : Sign → String
  | plus => "Plus"
  | minus => "Negate"

/-- The name of an operator in outlines and JSON. -/
def Operator.title : Operator → String
  | add => "Add"
  | subtract => "Subtract"
  | multiply => "Multiply"
  | divide => "Divide"
  | power => "Power"

/-- The outline of a number. -/
def Number.outline (number : Number) : Outline :=
  match number with
  | integer _ => .tuple "Integer" [.atom number.text]
  | real _ => .tuple "Float" [.atom number.text]

/-- The outline of a tree. -/
def Expr.outline : Expr → Outline
  | number value => .tuple "Number" [value.outline]
  | var index => .tuple "Variable" [.atom index.toNat.repr]
  | constant name => .tuple "Constant" [.atom name.name.capitalize]
  | signed sign operand =>
      .record "UnaryOp" [("op", .atom sign.title), ("operand", operand.outline)]
  | binary op left right =>
      .record "BinaryOp"
        [("op", .atom op.title), ("left", left.outline), ("right", right.outline)]
  | call function argument =>
      .record "Function"
        [("function", .atom function.name.capitalize), ("arg", argument.outline)]

end Formulary
