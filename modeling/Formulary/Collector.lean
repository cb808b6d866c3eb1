import Formulary.Formula

/-! Reading with one set of variables for the whole formula. The set is handed on from reader
to reader, and every variable is added to it as soon as its token is taken.
-/

namespace Formulary

/-- A tree as it was read, and its height. -/
structure Subtree where
  expr : Expr
  height : Nat

namespace Subtree

/-- A tree of one node. -/
def leaf (expr : Expr) : Subtree :=
  { expr := expr, height := 1 }

/-- The tree under one more node. -/
def withNode (subtree : Subtree) (node : Expr → Expr) : Except Error Subtree := do
  let height ← Operand.heightOver subtree.height
  return { expr := node subtree.expr, height := height }

/-- The operation on two trees. -/
def join (op : Operator) (left right : Subtree) : Except Error Subtree := do
  let height ← Operand.heightOver (max left.height right.height)
  return { expr := .binary op left.expr right.expr, height := height }

/-- An operation is higher than its left operand, and not too high. -/
theorem height_lt_of_join {op : Operator} {left right tree : Subtree}
    (joined : join op left right = .ok tree)
    : left.height < tree.height ∧ tree.height ≤ maxNesting := by
  simp only [join, Operand.heightOver] at joined
  split at joined
  · cases joined
  · cases joined
    simp only
    omega

end Subtree

/-- What can be read from the front of a stream when the variables of the set have been met: a
value, the variables met by then, and the stream behind it.
-/
abbrev Collector (α : Type) := VarSet → TokenStream → Except Error (α × VarSet × TokenStream)

namespace Collector

/-- Goes on with operators of one precedence and their operands. -/
def chainFrom (level : Precedence) (operand : Collector Subtree) (left : Subtree)
    : Collector Subtree :=
  fun vars stream =>
    match Reader.operator? level stream with
    | none => .ok (left, vars, stream)
    | some (op, rest) => do
        let (right, vars, rest) ← operand vars (← rest.settle)
        match _ : left.join op right with
        | .error error => .error error
        | .ok tree => chainFrom level operand tree vars rest
termination_by maxNesting - left.height
decreasing_by
  have := Subtree.height_lt_of_join ‹_›
  omega

/-- Operands joined by operators of one precedence, from the left. -/
def chain (level : Precedence) (operand : Collector Subtree) : Collector Subtree :=
  fun vars stream => do
    let (left, vars, rest) ← operand vars stream
    chainFrom level operand left vars rest

/-- An expression, given how its factors are read. -/
def expression (factor : Collector Subtree) : Collector Subtree :=
  chain .additive (chain .multiplicative (chain .exponential factor))

/-- A factor which nests at most `room` factors, itself included. -/
def factor : (room : Nat) → Collector Subtree
  | 0, _, .fault error => .error error
  | 0, _, _ => .error (.nestingTooDeep maxNesting)
  | room + 1, vars, stream =>
      match stream with
      | .fault error => .error error
      | .finish => .error .unexpectedEnd
      | .token (.number value) rest => do
          return (.leaf (.number value), vars, ← rest.settle)
      | .token (.var index) rest => do
          let rest ← rest.settle
          return (.leaf (.var index), vars.insert index, rest)
      | .token (.constant name) rest => do
          let rest ← Reader.expect .leftParen .leftParen (← rest.settle)
          let rest ← Reader.expect .rightParen .rightParen rest
          return (.leaf (.constant name), vars, rest)
      | .token (.function name) rest => do
          let (argument, vars, rest) ← factor room vars (← rest.settle)
          return (← argument.withNode (.call name), vars, rest)
      | .token .leftParen rest => do
          let (inner, vars, rest) ← expression (factor room) vars (← rest.settle)
          return (inner, vars, ← Reader.expect .rightParen .rightParen rest)
      | .token (.operator op) rest =>
          match op.sign? with
          | some sign => do
              let (operand, vars, rest) ← factor room vars (← rest.settle)
              return (← operand.withNode (.signed sign), vars, rest)
          | none => .error (.unexpectedToken (.operator op) .operand)
      | .token .rightParen _ => .error (.unexpectedToken .rightParen .operand)

/-- The formula whose tokens make up the whole stream, and the variables met on the way. -/
def formula (stream : TokenStream) : Except Error Formula := do
  let (tree, vars, rest) ← expression (factor maxNesting) .empty (← stream.settle)
  match rest with
  | .finish => return { expr := tree.expr, vars := vars }
  | .token found _ => throw (.trailingToken found)
  | .fault error => throw error

end Collector

end Formulary
