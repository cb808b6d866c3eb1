import Formulary.Error
import Formulary.Expr.Basic

/-! Programs: expressions in which every variable has become the place of an argument. -/

namespace Formulary

/-- An expression over arguments by place. -/
inductive Program (arity : Nat) where
  | value (x : Float)
  | slot (place : Fin arity)
  | signed (sign : Sign) (operand : Program arity)
  | binary (op : Operator) (left right : Program arity)
  | call (function : ElementaryFunction) (operand : Program arity)

namespace Program

/-- The value of the program for the arguments. -/
def run {arity : Nat} (args : Vector Float arity) : Program arity → Float
  | value x => x
  | slot place => args.get place
  | signed sign operand => sign.value (operand.run args)
  | binary op left right => op.value (left.run args) (right.run args)
  | call function operand => function.value (operand.run args)

/-- The program for an expression, given the slot of each variable. It fails at the
leftmost variable without one.
-/
def link {arity : Nat} (slot? : UInt64 → Option (Fin arity))
    : Expr → Except Error (Program arity)
  | .number number => .ok (value number.toFloat)
  | .constant name => .ok (value name.value)
  | .var index =>
      match slot? index with
      | some place => .ok (slot place)
      | none => .error (.malformedUnit (.unboundVar index))
  | .signed sign operand => do return signed sign (← link slot? operand)
  | .binary op left right => do
      let left ← link slot? left
      return binary op left (← link slot? right)
  | .call function argument => do return call function (← link slot? argument)

end Program

end Formulary
