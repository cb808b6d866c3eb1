import Formulary.Compilation
import Formulary.Proofs.Compiling.FormulaParameters
import Formulary.Proofs.Loading.LoadedUnits
import Formulary.Proofs.Reading.Exactness
import Formulary.Proofs.Reading.Failures

/-! What compiling a formula text comes to. Only its text and the number of its variables
can be wrong, since a unit made from a formula is never malformed.
-/

namespace Formulary

open Outcomes

/-- The declared parameters do not fit the requested number of arguments. -/
def CompileRequest.Conflicts (request : CompileRequest) (declared : Nat) : Prop :=
  request.strict = true ∧ declared ≠ request.arity
  ∨ request.strict = false ∧ request.arity < declared

/-- Fitting fails exactly if the number of parameters conflicts with the request. -/
theorem Definition.fit_of_conflicts {request : CompileRequest} {definition : Definition}
    (conflicts : request.Conflicts definition.params.length)
    : definition.fit request.arity request.strict
      = .error (.arityMismatch definition.params.length request.arity request.strict) := by
  rcases conflicts with ⟨strict, differ⟩ | ⟨lenient, many⟩
  · simp [fit, strict, differ]
  · simp [fit, lenient, many]

/-- Fitting adds placeholders up to the requested number. -/
theorem Definition.fit_of_not_conflicts {request : CompileRequest} {definition : Definition}
    (fits : ¬request.Conflicts definition.params.length)
    : definition.fit request.arity request.strict
      = .ok {
          definition with
          params := definition.params
            ++ (List.range (request.arity - definition.params.length)).map Param.placeholder
        } := by
  unfold CompileRequest.Conflicts at fits
  unfold fit
  cases strict : request.strict <;> simp_all

/-- Without a conflict there are no more variables than arguments. -/
theorem CompileRequest.le_of_not_conflicts {request : CompileRequest} {declared : Nat}
    (fits : ¬request.Conflicts declared)
    : declared ≤ request.arity := by
  unfold Conflicts at fits
  cases strict : request.strict <;> simp_all

namespace Formula

/-- The definition of a formula with as many parameters as asked for. -/
def definition (formula : Formula) (arity : Nat) : Definition :=
  { name := "fun", params := formula.params ++ formula.padding arity, body := formula.expr }

/-- A conflict in the number of arguments is the failure of compiling. -/
theorem compile_of_conflicts {request : CompileRequest} {formula : Formula}
    (conflicts : request.Conflicts formula.vars.size)
    : formula.compile request
      = .error (.arityMismatch formula.vars.size request.arity request.strict) := by
  rw [← length_params] at conflicts ⊢
  have unfit :=
    @Definition.fit_of_conflicts request ⟨"fun", formula.params, formula.expr⟩ conflicts
  simp [compile, SourceUnit.compile, unit, SourceUnit.ofBody, SourceUnit.update,
    Item.updateFirst, unfit]

/-- Without a conflict the unit of the fitted definition is loaded. -/
theorem compile_of_not_conflicts {request : CompileRequest} {formula : Formula}
    (fits : ¬request.Conflicts formula.vars.size)
    : formula.compile request
      = (SourceUnit.ofBody formula.expr
          (formula.params ++ formula.padding request.arity)).load := by
  rw [← length_params] at fits
  have fitted :=
    @Definition.fit_of_not_conflicts request ⟨"fun", formula.params, formula.expr⟩ fits
  simp only [compile, SourceUnit.compile, unit, SourceUnit.ofBody, SourceUnit.update,
    Item.updateFirst, fitted, padding, ok_bind, pure_eq_ok]

/-- The unit of a formula has no fault, since the formula knows its variables. -/
theorem loads_ofBody {formula : Formula} (known : formula.vars = formula.expr.vars)
    (arity : Nat)
    : ∃ program,
        (SourceUnit.ofBody formula.expr (formula.params ++ formula.padding arity)).Loads
          (formula.definition arity) program := by
  have bound
      : ∀ index ∈ formula.expr.vars,
          ∃ place,
            Param.lastSlot? (formula.params ++ formula.padding arity) index = some place := by
    intro index member
    -- A variable of the tree is a variable of the formula, and its rank is its slot.
    rw [← known] at member
    obtain ⟨rank, within, here⟩ := List.mem_iff_getElem.mp member
    have inside : rank < (formula.params ++ formula.padding arity).length := by
      rw [List.length_append, length_params]
      exact Nat.lt_add_right _ within
    exact ⟨⟨rank, inside⟩,
      lastSlot?_padded.mpr (List.getElem?_eq_some_iff.mpr ⟨within, here⟩)⟩
  obtain ⟨program, linked⟩ := Program.link_succeeds bound
  exact ⟨program, {
    noReturn := rfl
    first := rfl
    distinct := formula.nodup_names arity
    imported := fun _ => rfl
    linked := linked
  }⟩

/-- A formula which has been read knows its variables. -/
theorem vars_of_parse {text : String} {formula : Formula} (read : parse text = .ok formula)
    : formula.vars = formula.expr.vars := by
  obtain ⟨_, _, _, _, _, _, whole⟩ := parse_eq_ok_iff.mp read
  exact congrArg Formula.vars whole

/-- Without a conflict a formula which has been read is compiled, and its evaluator runs
the program of the fitted definition.
-/
theorem compile_of_parse {text : String} {formula : Formula} {request : CompileRequest}
    (read : parse text = .ok formula) (fits : ¬request.Conflicts formula.vars.size)
    : ∃ program,
        Program.link (Param.lastSlot? (formula.definition request.arity).params) formula.expr
          = .ok program
        ∧ Formulary.compile request text
          = .ok ((formula.definition request.arity).evaluator program) := by
  obtain ⟨program, loads⟩ := loads_ofBody (vars_of_parse read) request.arity
  have loaded := SourceUnit.load_eq_ok_iff.mpr ⟨_, program, loads, rfl⟩
  refine ⟨program, loads.linked, ?_⟩
  rw [Formulary.compile, read, ok_bind, compile_of_not_conflicts fits, loaded]

end Formula

/-- Compiling fails with the failure of the text, whatever is requested, or with a conflict
in the number of arguments, and otherwise gives an evaluator which takes the variables in
ascending order and then placeholders. The unit itself is never at fault.
-/
theorem compile_outcome (text : String)
    : (∀ error,
        Formula.parse text = .error error
        → error.isSyntactic = true ∧ ∀ request, compile request text = .error error)
      ∧ (∀ formula request,
          Formula.parse text = .ok formula
          → (compile request text
                = .error (.arityMismatch formula.expr.vars.size request.arity request.strict)
              ↔ request.Conflicts formula.expr.vars.size)
            ∧ (¬request.Conflicts formula.expr.vars.size
              → ∃ evaluator,
                  compile request text = .ok evaluator
                  ∧ evaluator.arity = request.arity
                  ∧ evaluator.params
                    = formula.expr.vars.toList.map Param.ofVar
                      ++ (List.range (request.arity - formula.expr.vars.size)).map
                        Param.placeholder
                  ∧ (evaluator.params.map Param.name).Nodup))
      ∧ ∀ request,
          compile request text ≠ .error .noDefinition
          ∧ ∀ fault, compile request text ≠ .error (.malformedUnit fault) := by
  refine ⟨?_, ?_, ?_⟩
  · intro error failed
    exact ⟨Formula.isSyntactic_of_parse failed,
      fun request => by rw [compile, failed, error_bind]⟩
  · intro formula request read
    rw [← Formula.vars_of_parse read]
    have succeeds (fits : ¬request.Conflicts formula.vars.size) :=
      Formula.compile_of_parse read fits
    refine ⟨⟨?_, ?_⟩, ?_⟩
    · intro mismatch
      by_contra fits
      obtain ⟨program, _, compiled⟩ := succeeds fits
      rw [compiled] at mismatch
      cases mismatch
    · intro conflicts
      rw [compile, read, ok_bind, Formula.compile_of_conflicts conflicts]
    · intro fits
      obtain ⟨program, _, compiled⟩ := succeeds fits
      have few := CompileRequest.le_of_not_conflicts fits
      refine ⟨_, compiled, Formula.length_padded few, ?_, formula.nodup_names request.arity⟩
      rw [← Formula.length_params]
      rfl
  · intro request
    cases read : Formula.parse text with
    | error error =>
        have syntactic := Formula.isSyntactic_of_parse read
        rw [compile, read, error_bind]
        constructor
        · rintro ⟨⟩
          cases syntactic
        · rintro fault ⟨⟩
          cases syntactic
    | ok formula =>
        by_cases conflicts : request.Conflicts formula.vars.size
        · simp [compile, read, Formula.compile_of_conflicts conflicts]
        · obtain ⟨program, _, compiled⟩ := Formula.compile_of_parse read conflicts
          simp [compiled]

/-- Two variables out of order are put in order, and the third argument is padding. -/
theorem compile_outcome_padded
    : (∃ formula, Formula.parse "X3 - x1" = .ok formula ∧ formula.expr.vars.toList = [1, 3])
      ∧ ∃ evaluator,
          compile { arity := 3, strict := false } "X3 - x1" = .ok evaluator
          ∧ evaluator.params.map Param.name = ["x1", "x3", "placeholder_0"] := by
  have read
      : Formula.parse "X3 - x1" = .ok (Formula.ofExpr (.binary .subtract (.var 3) (.var 1))) := by
    cbv
  have fits : ¬CompileRequest.Conflicts { arity := 3, strict := false } 2 := by
    simp [CompileRequest.Conflicts]
  refine ⟨⟨_, read, rfl⟩, ?_⟩
  obtain ⟨evaluator, compiled, _, params, _⟩ :=
    ((compile_outcome "X3 - x1").2.1 _ _ read).2 fits
  refine ⟨evaluator, compiled, ?_⟩
  rw [params]
  rfl

end Formulary
