import Formulary.Proofs.Compiling.FormulaCompilation

/-! What the evaluator of a formula computes. The variables have the arguments in ascending
order as their values, and arguments without a variable do not count.
-/

namespace Formulary

/-- The assignment gives every variable the argument at the variable's rank. -/
def VarSet.Binds (vars : VarSet) (args : Array Float) (assignment : UInt64 → Float) : Prop :=
  ∀ (rank : Nat) (index : UInt64),
    vars.toList[rank]? = some index → args[rank]? = some (assignment index)

/-- Enough arguments can be given to the variables, since every variable has one rank. -/
theorem VarSet.exists_binds {vars : VarSet} {args : Array Float} (enough : vars.size ≤ args.size)
    : ∃ assignment, vars.Binds args assignment := by
  refine ⟨fun index => args.getD (vars.toList.idxOf index) 0, ?_⟩
  intro rank index here
  obtain ⟨within, here⟩ := List.getElem?_eq_some_iff.mp here
  have found : vars.toList.idxOf index = rank := by
    rw [← here]
    exact vars.nodup.idxOf_getElem rank within
  have inside : rank < args.size := Nat.lt_of_lt_of_le within enough
  simp [found, inside]

/-- Arguments which agree on the ranks of the variables bind them to the same values. -/
theorem VarSet.Binds.congr {vars : VarSet} {args args' : Array Float}
    {assignment : UInt64 → Float} (binds : vars.Binds args assignment)
    (agree : ∀ rank : Nat, rank < vars.size → args[rank]? = args'[rank]?)
    : vars.Binds args' assignment := by
  intro rank index here
  obtain ⟨within, _⟩ := List.getElem?_eq_some_iff.mp here
  rw [← agree rank within]
  exact binds rank index here

/-- What is compiled has no conflict in the number of arguments. -/
theorem Formula.not_conflicts_of_compile {text : String} {formula : Formula}
    {request : CompileRequest} {evaluator : Evaluator} (read : parse text = .ok formula)
    (compiled : Formulary.compile request text = .ok evaluator)
    : ¬request.Conflicts formula.vars.size := by
  intro conflicts
  rw [Formulary.compile, read, Outcomes.ok_bind, compile_of_conflicts conflicts] at compiled
  cases compiled

/-- The evaluator of a formula has the value of the tree under any assignment which binds
the variables to the arguments.
-/
theorem Formula.call_of_binds {text : String} {formula : Formula} {request : CompileRequest}
    {evaluator : Evaluator} (read : parse text = .ok formula)
    (compiled : Formulary.compile request text = .ok evaluator) {args : Array Float}
    (many : args.size = request.arity) {assignment : UInt64 → Float}
    (binds : formula.vars.Binds args assignment)
    : evaluator.call args = .ok (formula.expr.eval assignment) := by
  have fits := not_conflicts_of_compile read compiled
  obtain ⟨program, linked, compiled'⟩ := compile_of_parse read fits
  rw [compiled] at compiled'
  cases compiled'
  have length : args.size = (formula.definition request.arity).params.length := by
    rw [many]
    exact (length_padded (CompileRequest.le_of_not_conflicts fits)).symm
  -- A variable's slot is its rank, where the binding has its argument.
  refine Definition.call_of_linked linked length fun index _ place found => ?_
  exact binds place index (lastSlot?_padded.mp found)

/-- A compiled formula has the value of its tree with the variables bound in ascending
order. Arguments beyond the variables do not matter, so it is the strict evaluator with
more arguments.
-/
theorem call_eq_eval {text : String} {request : CompileRequest} {evaluator : Evaluator}
    (compiled : compile request text = .ok evaluator)
    : ∃ formula,
        Formula.parse text = .ok formula
        ∧ (∀ args : Array Float,
            args.size = request.arity
            → (∃ assignment, formula.expr.vars.Binds args assignment)
              ∧ ∀ assignment,
                  formula.expr.vars.Binds args assignment
                  → evaluator.call args = .ok (formula.expr.eval assignment))
        ∧ (∀ args args' : Array Float,
            args.size = request.arity
            → args'.size = request.arity
            → (∀ rank : Nat, rank < formula.expr.vars.size → args[rank]? = args'[rank]?)
            → evaluator.call args = evaluator.call args')
        ∧ ∃ exact,
            compile { arity := formula.expr.vars.size, strict := true } text = .ok exact
            ∧ ∀ args : Array Float,
                args.size = request.arity
                → evaluator.call args = exact.call (args.take formula.expr.vars.size) := by
  obtain ⟨formula, read, _⟩ := Outcomes.bind_eq_ok_iff.mp compiled
  have fits := Formula.not_conflicts_of_compile read compiled
  have few := CompileRequest.le_of_not_conflicts fits
  have binds {args : Array Float} (many : args.size = request.arity)
      : ∃ assignment, formula.vars.Binds args assignment :=
    VarSet.exists_binds (by rw [many]; exact few)
  refine ⟨formula, read, ?_⟩
  rw [← Formula.vars_of_parse read]
  refine ⟨?_, ?_, ?_⟩
  · intro args many
    exact ⟨binds many, fun assignment bound => Formula.call_of_binds read compiled many bound⟩
  · intro args args' many many' agree
    obtain ⟨assignment, bound⟩ := binds many
    rw [Formula.call_of_binds read compiled many bound,
      Formula.call_of_binds read compiled many' (bound.congr agree)]
  · -- The strict evaluator has no padding, so it sees the arguments of the variables only.
    have strict
        : ¬CompileRequest.Conflicts { arity := formula.vars.size, strict := true }
            formula.vars.size := by
      simp [CompileRequest.Conflicts]
    obtain ⟨program, _, exactly⟩ := Formula.compile_of_parse read strict
    refine ⟨_, exactly, ?_⟩
    intro args many
    obtain ⟨assignment, bound⟩ := binds many
    have size : (args.take formula.vars.size).size = formula.vars.size := by
      simp [many, Nat.min_eq_left few]
    have agree
        : ∀ rank : Nat,
            rank < formula.vars.size → args[rank]? = (args.take formula.vars.size)[rank]? := by
      intro rank within
      have inside : rank < min formula.vars.size args.size := by omega
      simp [inside]
    rw [Formula.call_of_binds read compiled many bound,
      Formula.call_of_binds read exactly size (bound.congr agree)]

/-- The smaller index has the first argument, on whichever side it stands. -/
theorem call_eq_eval_swapped
    : ∃ evaluator,
        compile { arity := 3, strict := false } "X5 - x2" = .ok evaluator
        ∧ evaluator.call #[1, 10, 7] = .ok (10 - 1) := by
  have read
      : Formula.parse "X5 - x2" = .ok (Formula.ofExpr (.binary .subtract (.var 5) (.var 2))) := by
    cbv
  have fits : ¬CompileRequest.Conflicts { arity := 3, strict := false } 2 := by
    simp [CompileRequest.Conflicts]
  obtain ⟨program, _, compiled⟩ := Formula.compile_of_parse read fits
  refine ⟨_, compiled, ?_⟩
  obtain ⟨formula, read', values, _⟩ := call_eq_eval compiled
  rw [read] at read'
  cases read'
  refine (values #[1, 10, 7] rfl).2 (fun index => if index = 2 then 1 else 10) ?_
  intro rank index here
  rcases rank with _ | _ | rank
  · cases here
    rfl
  · cases here
    rfl
  · cases here

end Formulary
