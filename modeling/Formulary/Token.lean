import Formulary.Elementary
import Formulary.Number
import Formulary.Operator

/-! Tokens of a formula and the reserved words. -/

namespace Formulary

/-- The smallest parts of a formula which mean something. -/
inductive Token where
  | number (value : Number)
  | var (index : UInt64)
  | function (name : ElementaryFunction)
  | constant (name : NamedConstant)
  | operator (op : Operator)
  | leftParen
  | rightParen
deriving DecidableEq

namespace Token

/-- A text between quotation marks. -/
def inQuotes (text : String) : String :=
  "'" ++ text ++ "'"

/-- What sort of token it is, in words. -/
def kind : Token → String
  | number (.integer _) => "integer"
  | number (.real _) => "float"
  | var _ => "variable"
  | function name => inQuotes name.name
  | constant name => inQuotes name.name
  | operator op => inQuotes (String.singleton op.symbol)
  | leftParen => inQuotes "("
  | rightParen => inQuotes ")"

/-- The token as messages show it: its text, in quotation marks if it is a mark. -/
def text : Token → String
  | number value => value.text
  | var index => "x" ++ index.toNat.repr
  | function name => name.name
  | constant name => name.name
  | token => token.kind

/-- The token of a reserved word, which is written in lower case. -/
def ofWord? (word : String) : Option Token :=
  match ElementaryFunction.all.find? (·.name == word) with
  | some name => some (function name)
  | none => if word == NamedConstant.pi.name then some (constant .pi) else none

/-- The token of an operator or parenthesis. -/
def ofMark? : Char → Option Token
  | '+' => some (operator .add)
  | '-' => some (operator .subtract)
  | '*' => some (operator .multiply)
  | '/' => some (operator .divide)
  | '^' => some (operator .power)
  | '(' => some leftParen
  | ')' => some rightParen
  | _ => none

end Token

end Formulary
