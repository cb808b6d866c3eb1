import Formulary.Program
import Formulary.SourceUnit
import Formulary.Text.Quoted

/-! Evaluators, which are called with one argument for each parameter, and how a unit is
loaded into one.
-/

namespace Formulary

/-- A function which can be called. -/
structure Evaluator where
  name : String
  params : List Param
  run : Vector Float params.length → Float

namespace Param

/-- The place of the last parameter bound to the variable. -/
def lastSlot? : (params : List Param) → UInt64 → Option (Fin params.length)
  | [], _ => none
  | param :: rest, index =>
      match lastSlot? rest index with
      | some slot => some slot.succ
      | none => if param.boundTo = some index then some ⟨0, Nat.zero_lt_succ _⟩ else none

/-- The first parameter name which occurs before, `seen` being the names so far. -/
def repeatedName? (seen : List String) : List Param → Option String
  | [] => none
  | param :: rest =>
      if param.name ∈ seen then some param.name
      else repeatedName? (param.name :: seen) rest

end Param

namespace Evaluator

/-- How many arguments a call takes. -/
def arity (evaluator : Evaluator) : Nat :=
  evaluator.params.length

/-- The value for the arguments, which have to be as many as the parameters. -/
def call (evaluator : Evaluator) (args : Array Float) : Except Error Float :=
  if fits : args.size = evaluator.params.length then .ok (evaluator.run ⟨args, fits⟩)
  else .error (.argumentCount evaluator.name evaluator.params.length args.size)

/-- The name and the parameters of an evaluator. -/
def summary (evaluator : Evaluator) : String :=
  "Evaluator \x7b name: " ++ Text.quote evaluator.name ++ ", params: ["
    ++ ", ".intercalate (evaluator.params.map fun param => Text.quote param.name)
    ++ "], .. \x7d"

end Evaluator

/-- The evaluator for the first definition of a unit. A stray return is refused first,
then a missing definition, a repeated parameter, a missing import, and last a variable
without a parameter.
-/
def SourceUnit.load (unit : SourceUnit) : Except Error Evaluator := do
  if unit.hasStrayReturn then throw (.malformedUnit .strayReturn)
  let some definition := unit.definition? | throw .noDefinition
  if let some name := Param.repeatedName? [] definition.params then
    throw (.malformedUnit (.duplicateParam name))
  if definition.body.usesMath && !unit.importsMath then
    throw (.malformedUnit .mathNotImported)
  -- A variable bound twice takes the later argument.
  let program ← Program.link (Param.lastSlot? definition.params) definition.body
  return {
    name := definition.name
    params := definition.params
    run := fun args => program.run args
  }

end Formulary
