import Formulary.Token

/-! What can go wrong with a formula, by cause, with the stage at which it does and the
message for it.
-/

namespace Formulary

/-- What should have stood in the place of a token. -/
inductive Expectation where
  | operand
  | leftParen
  | rightParen
deriving DecidableEq

/-- Why a unit cannot be loaded. -/
inductive UnitFault where
  | strayReturn
  | duplicateParam (name : String)
  | mathNotImported
  | unboundVar (index : UInt64)
deriving DecidableEq

/-- The stages of work on a formula. -/
inductive Stage where
  | lexing
  | parsing
  | lookup
  | arity
  | loading
  | evaluation
deriving DecidableEq

/-- The causes of failure. -/
inductive Error where
  /-- The word is not reserved. -/
  | unknownWord (word : String)
  /-- No token begins with the character. -/
  | unexpectedChar (found : Char) (position : Nat) (previous : Option Char)
  /-- The numeral or variable index has no value. -/
  | invalidNumeral (text : String)
  /-- A token stands where the grammar wants another. -/
  | unexpectedToken (found : Token) (expected : Expectation)
  /-- The formula ends where the grammar wants a token. -/
  | unexpectedEnd
  /-- A token follows a complete expression. -/
  | trailingToken (found : Token)
  /-- The formula or its tree is nested too deeply. -/
  | nestingTooDeep (limit : Nat)
  /-- The unit defines no function. -/
  | noDefinition
  /-- The declared parameters do not fit the requested number of arguments. -/
  | arityMismatch (declared requested : Nat) (strict : Bool)
  /-- The unit is malformed. -/
  | malformedUnit (fault : UnitFault)
  /-- A function was called with too few or too many arguments. -/
  | argumentCount (function : String) (expected actual : Nat)
deriving DecidableEq

/-- The expected token in words. -/
def Expectation.text : Expectation → String
  | operand => "a number, variable, function or '('"
  | leftParen => Token.leftParen.kind
  | rightParen => Token.rightParen.kind

/-- The fault in words. -/
def UnitFault.message : UnitFault → String
  | strayReturn => "'return' outside function"
  | duplicateParam name => "duplicate argument '" ++ name ++ "' in function definition"
  | mathNotImported => "name 'math' is not defined"
  | unboundVar index => "name 'x" ++ index.toNat.repr ++ "' is not defined"

/-- The name of the stage. -/
def Stage.name : Stage → String
  | lexing => "lex"
  | parsing => "parse"
  | lookup => "shape"
  | arity => "arity"
  | loading => "backend"
  | evaluation => "evaluate"

namespace Error

/-- The stage at which the failure shows. -/
def stage : Error → Stage
  | unknownWord _ | unexpectedChar .. | invalidNumeral _ => .lexing
  | unexpectedToken .. | unexpectedEnd | trailingToken _ | nestingTooDeep _ => .parsing
  | noDefinition => .lookup
  | arityMismatch .. => .arity
  | malformedUnit _ => .loading
  | argumentCount .. => .evaluation

/-- The failure is in the formula text. -/
def isSyntactic (error : Error) : Bool :=
  error.stage = .lexing || error.stage = .parsing

/-- The failure in words. -/
def message : Error → String
  | unknownWord word => "Unknown keyword '" ++ word ++ "'"
  | unexpectedChar found position previous =>
      "Unhandled character '" ++ String.singleton found
        ++ "' at position " ++ position.repr
        ++ (match previous with
            | some c => " (after '" ++ String.singleton c ++ "')"
            | none => "")
  | invalidNumeral text => "Invalid numeric literal '" ++ text ++ "'"
  | unexpectedToken found expected =>
      "Token types do not match: " ++ found.text ++ " != " ++ expected.text
  | unexpectedEnd => "Unexpected end of formula. Did you forget to close parentheses?"
  | trailingToken found =>
      "Incomplete formula provided (found " ++ found.text
        ++ " after the expression). Did you check if all parentheses are matched?"
  | nestingTooDeep limit => "Formula nests deeper than " ++ limit.repr ++ " levels"
  | noDefinition => "Provided unit does not contain a function definition"
  | arityMismatch declared requested strict =>
      "The formula requires " ++ declared.repr
        ++ " arguments, but the compiler was instructed to expect"
        ++ (if strict then " exactly " else " at most ") ++ requested.repr
  | malformedUnit fault => "Compilation failed: " ++ fault.message
  | argumentCount function expected actual =>
      function ++ "() takes " ++ expected.repr ++ " positional arguments but "
        ++ actual.repr ++ " were given"

end Error

end Formulary
