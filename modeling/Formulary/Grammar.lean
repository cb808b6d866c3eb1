import Formulary.Expr.Basic
import Formulary.Token

/-! The grammar of formulas as a relation between tokens and trees, and the nesting of the
factors. Operators of one precedence join their operands from the left, and parentheses
leave no trace in the tree.
-/

namespace Formulary

/-- What a list of tokens can be. -/
inductive Category where
  | factor
  /-- Operands joined by operators of one precedence, or one operand alone. -/
  | chain (level : Precedence)

/-- The category of the operands at a precedence. -/
def Precedence.operands : Precedence → Category
  | additive => .chain .multiplicative
  | multiplicative => .chain .exponential
  | exponential => .factor

/-- The tokens derive the tree, with the factors nested so deeply. -/
inductive Derives : Category → List Token → Expr → Nat → Prop where
  | number (value : Number) : Derives .factor [.number value] (.number value) 1
  | var (index : UInt64) : Derives .factor [.var index] (.var index) 1
  | constant (name : NamedConstant)
    : Derives .factor [.constant name, .leftParen, .rightParen] (.constant name) 1
  | signed {op : Operator} {sign : Sign} {tokens : List Token} {expr : Expr}
    {nesting : Nat} (isSign : op.sign? = some sign)
    (operand : Derives .factor tokens expr nesting)
    : Derives .factor (.operator op :: tokens) (.signed sign expr) (nesting + 1)
  | call {name : ElementaryFunction} {tokens : List Token} {expr : Expr} {nesting : Nat}
    (argument : Derives .factor tokens expr nesting)
    : Derives .factor (.function name :: tokens) (.call name expr) (nesting + 1)
  | parens {tokens : List Token} {expr : Expr} {nesting : Nat}
    (inner : Derives (.chain .additive) tokens expr nesting)
    : Derives .factor (.leftParen :: tokens ++ [.rightParen]) expr (nesting + 1)
  | single {level : Precedence} {tokens : List Token} {expr : Expr} {nesting : Nat}
    (operand : Derives level.operands tokens expr nesting)
    : Derives (.chain level) tokens expr nesting
  | join {op : Operator} {before after : List Token} {left right : Expr}
    {outer inner : Nat}
    (first : Derives (.chain op.precedence) before left outer)
    (last : Derives op.precedence.operands after right inner)
    : Derives (.chain op.precedence) (before ++ .operator op :: after)
        (.binary op left right) (max outer inner)

/-- The tokens make up a formula, however deeply it is nested. -/
def IsSentence (tokens : List Token) : Prop :=
  ∃ expr nesting, Derives (.chain .additive) tokens expr nesting

end Formulary
