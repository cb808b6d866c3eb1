import Formulary.Evaluator
import Formulary.Json

/-! Compilation: a formula is read, made into a unit, fitted to the requested number of
arguments and loaded.
-/

namespace Formulary

/-- What becomes of a failure. -/
inductive OnFailure where
  /-- It is the result. -/
  | propagate
  /-- The result is that there is no evaluator. -/
  | report
deriving DecidableEq

/-- What is asked of a compilation. -/
structure CompileRequest where
  /-- The requested number of arguments. -/
  arity : Nat := 1
  /-- There must be a variable for every argument. -/
  strict : Bool := true
  onFailure : OnFailure := .propagate
deriving DecidableEq

/-- The outcome once a failure is dealt with. -/
def OnFailure.resolve {α : Type} (onFailure : OnFailure)
    : Except Error α → Except Error (Option α)
  | .ok value => .ok (some value)
  | .error error =>
      match onFailure with
      | propagate => .error error
      | report => .ok none

/-- The definition with the requested number of parameters. Missing ones are added as
placeholders unless the request is strict.
-/
def Definition.fit (arity : Nat) (strict : Bool) (definition : Definition)
    : Except Error Definition :=
  let declared := definition.params.length
  if (if strict then declared ≠ arity else arity < declared) then
    .error (.arityMismatch declared arity strict)
  else
    let placeholders := (List.range (arity - declared)).map Param.placeholder
    .ok { definition with params := definition.params ++ placeholders }

/-- The evaluator for a unit. -/
def SourceUnit.compile (request : CompileRequest) (unit : SourceUnit)
    : Except Error Evaluator := do
  (← unit.update (Definition.fit request.arity request.strict)).load

/-- The evaluator for a formula. -/
def Formula.compile (request : CompileRequest) (formula : Formula)
    : Except Error Evaluator :=
  formula.unit.compile request

/-- The evaluator for a formula text. -/
def compile (request : CompileRequest) (text : String) : Except Error Evaluator := do
  (← Formula.parse text).compile request

/-- The evaluator for a formula text, a failure being dealt with as requested. -/
def tryCompile (request : CompileRequest) (text : String)
    : Except Error (Option Evaluator) :=
  request.onFailure.resolve (compile request text)

/-- The name of the choice. -/
def OnFailure.title : OnFailure → String
  | propagate => "Propagate"
  | report => "Report"

/-- The request as a JSON value. -/
def CompileRequest.toJson (request : CompileRequest) : Json :=
  .object [("n_args", .integer request.arity), ("strict", .bool request.strict),
    ("policy", .string request.onFailure.title)]

end Formulary
