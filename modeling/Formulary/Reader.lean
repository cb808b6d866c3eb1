import Formulary.Expr.Basic
import Formulary.TokenStream

/-! Reading an expression from the front of a token stream. A factor is a number, a
variable, a constant, an expression in parentheses, or a sign or function in front of a
factor. Factors are joined by operators, those which bind more tightly first and equal
ones from the left.

A failure of the lexer counts as soon as the token before it is taken.
-/

namespace Formulary

/-- How deeply factors may be nested, and how high a tree may be. -/
def maxNesting : Nat := 256

/-- What an operator or a sign applies to: a tree as it was read, its height, and the
variables met in it.
-/
structure Operand where
  expr : Expr
  height : Nat
  vars : VarSet

namespace Operand

/-- A tree of one node which is no variable. -/
def leaf (expr : Expr) : Operand :=
  { expr := expr, height := 1, vars := .empty }

/-- A variable. -/
def var (index : UInt64) : Operand :=
  { expr := .var index, height := 1, vars := .singleton index }

/-- The height of a node over subtrees of at most the given height. -/
def heightOver (below : Nat) : Except Error Nat :=
  if maxNesting ≤ below then .error (.nestingTooDeep maxNesting) else .ok (below + 1)

/-- The operand under one more node. -/
def withNode (operand : Operand) (node : Expr → Expr) : Except Error Operand := do
  let height ← heightOver operand.height
  return { operand with expr := node operand.expr, height := height }

/-- The operation on two operands. -/
def join (op : Operator) (left right : Operand) : Except Error Operand := do
  let height ← heightOver (max left.height right.height)
  return {
    expr := .binary op left.expr right.expr
    height := height
    vars := left.vars.union right.vars
  }

/-- An operation is higher than its left operand, and not too high. -/
theorem height_lt_of_join {op : Operator} {left right tree : Operand}
    (joined : join op left right = .ok tree)
    : left.height < tree.height ∧ tree.height ≤ maxNesting := by
  simp only [join, heightOver] at joined
  split at joined
  · cases joined
  · cases joined
    simp only
    omega

end Operand

/-- What can be read from the front of a stream: a value, and the stream after it. -/
abbrev Reader (α : Type) := TokenStream → Except Error (α × TokenStream)

namespace Reader

/-- The operator of the given precedence at the front of a stream. -/
def operator? (level : Precedence) : TokenStream → Option (Operator × TokenStream)
  | .token (.operator op) rest => if op.precedence = level then some (op, rest) else none
  | _ => none

/-- Takes a parenthesis off the front of a stream. -/
def expect (token : Token) (expected : Expectation) (stream : TokenStream)
    : Except Error TokenStream :=
  match stream with
  | .token found rest =>
      if found = token then rest.settle else .error (.unexpectedToken found expected)
  | .finish => .error .unexpectedEnd
  | .fault error => .error error

/-- Goes on with operators of one precedence and their operands. Every operation makes the
tree higher, so its greatest height bounds their number.
-/
def chainFrom (level : Precedence) (operand : Reader Operand) (left : Operand)
    : Reader Operand :=
  fun stream =>
    match operator? level stream with
    | none => .ok (left, stream)
    | some (op, rest) => do
        let (right, rest) ← operand (← rest.settle)
        match _ : left.join op right with
        | .error error => .error error
        | .ok tree => chainFrom level operand tree rest
termination_by maxNesting - left.height
decreasing_by
  have := Operand.height_lt_of_join ‹_›
  omega

/-- Operands joined by operators of one precedence, from the left. -/
def chain (level : Precedence) (operand : Reader Operand) : Reader Operand :=
  fun stream => do
    let (left, rest) ← operand stream
    chainFrom level operand left rest

/-- An expression, given how its factors are read. -/
def expression (factor : Reader Operand) : Reader Operand :=
  chain .additive (chain .multiplicative (chain .exponential factor))

/-- A factor which nests at most `room` factors, itself included. -/
def factor : (room : Nat) → Reader Operand
  | 0, .fault error => .error error
  | 0, _ => .error (.nestingTooDeep maxNesting)
  | room + 1, stream =>
      match stream with
      | .fault error => .error error
      | .finish => .error .unexpectedEnd
      | .token (.number value) rest => do
          return (.leaf (.number value), ← rest.settle)
      | .token (.var index) rest => do
          return (.var index, ← rest.settle)
      | .token (.constant name) rest => do
          let rest ← expect .leftParen .leftParen (← rest.settle)
          let rest ← expect .rightParen .rightParen rest
          return (.leaf (.constant name), rest)
      | .token (.function name) rest => do
          let (argument, rest) ← factor room (← rest.settle)
          return (← argument.withNode (.call name), rest)
      | .token .leftParen rest => do
          let (inner, rest) ← expression (factor room) (← rest.settle)
          return (inner, ← expect .rightParen .rightParen rest)
      | .token (.operator op) rest =>
          match op.sign? with
          | some sign => do
              let (operand, rest) ← factor room (← rest.settle)
              return (← operand.withNode (.signed sign), rest)
          | none => .error (.unexpectedToken (.operator op) .operand)
      | .token .rightParen _ => .error (.unexpectedToken .rightParen .operand)

end Reader

end Formulary
