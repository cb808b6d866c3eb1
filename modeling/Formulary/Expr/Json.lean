import Formulary.Expr.Outline
import Formulary.Json
import Formulary.Token

/-! Numbers, tokens and expression trees as JSON values. A value with parts is an object
whose one member is named for the kind.
-/

namespace Formulary

/-- A number as a JSON value. -/
def Number.toJson : Number → Json
  | integer value => .integer value.toInt
  | real value => .real value

/-- A token as a JSON value. -/
def Token.toJson : Token → Json
  | number value => .object [("Number", value.toJson)]
  | var index => .object [("Variable", .integer index.toNat)]
  | function name => .object [("Function", .string name.name)]
  | constant name => .object [("Constant", .string name.name)]
  | operator .add => .string "Plus"
  | operator .subtract => .string "Minus"
  | operator .multiply => .string "Star"
  | operator .divide => .string "Slash"
  | operator .power => .string "Caret"
  | leftParen => .string "LeftParen"
  | rightParen => .string "RightParen"

/-- A tree as a JSON value. -/
def Expr.toJson : Expr → Json
  | number value => .object [("Number", value.toJson)]
  | var index => .object [("Variable", .integer index.toNat)]
  | constant name => .object [("Constant", .string name.name)]
  | signed sign operand =>
      .object [("UnaryOp",
        .object [("op", .string sign.title), ("operand", operand.toJson)])]
  | binary op left right =>
      .object [("BinaryOp",
        .object
          [("op", .string op.title), ("left", left.toJson), ("right", right.toJson)])]
  | call function argument =>
      .object [("Function",
        .object [("function", .string function.name), ("arg", argument.toJson)])]

end Formulary
