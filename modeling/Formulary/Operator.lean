/-! Signs and operators of a formula, with their arithmetic. -/

namespace Formulary

/-- A sign in front of an operand. -/
inductive Sign where
  | plus
  | minus
deriving DecidableEq

/-- An operator between two operands. -/
inductive Operator where
  | add
  | subtract
  | multiply
  | divide
  | power
deriving DecidableEq

/-- How tightly an operator binds. -/
inductive Precedence where
  | additive
  | multiplicative
  | exponential
deriving DecidableEq

namespace Sign

/-- The character of the sign. -/
def symbol : Sign → Char
  | plus => '+'
  | minus => '-'

/-- The value with the sign in front. -/
def value : Sign → Float → Float
  | plus, operand => operand
  | minus, operand => -operand

end Sign

namespace Operator

/-- The character of the operator. -/
def symbol : Operator → Char
  | add => '+'
  | subtract => '-'
  | multiply => '*'
  | divide => '/'
  | power => '^'

/-- How tightly the operator binds. -/
def precedence : Operator → Precedence
  | add | subtract => .additive
  | multiply | divide => .multiplicative
  | power => .exponential

/-- The sign which the operator's character is in front of an operand. -/
def sign? : Operator → Option Sign
  | add => some .plus
  | subtract => some .minus
  | _ => none

/-- The value of the operation. -/
def value : Operator → Float → Float → Float
  | add => (· + ·)
  | subtract => (· - ·)
  | multiply => (· * ·)
  | divide => (· / ·)
  | power => Float.pow

end Operator

end Formulary
