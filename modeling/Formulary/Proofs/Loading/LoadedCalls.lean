import Formulary.Proofs.Loading.FirstFaults

/-! What calling a loaded evaluator comes to, whatever its parameters are called. A variable
has the argument at the last place whose parameter is bound to it, and an argument at any
other place does not count.
-/

namespace Formulary

/-- The place is the last one whose parameter is bound to the variable. -/
structure Param.LastBound (params : List Param) (index : UInt64) (place : Nat) : Prop where
  bound : ∃ param, params[place]? = some param ∧ param.boundTo = some index
  last
    : ∀ later param,
        place < later → params[later]? = some param → param.boundTo ≠ some index

namespace Param

variable {params : List Param} {index : UInt64}

/-- The slot of a variable is the last place bound to it. -/
theorem lastBound_of_lastSlot? {place : Fin params.length}
    (found : lastSlot? params index = some place)
    : LastBound params index place := by
  obtain ⟨bound, unbound⟩ := lastSlot?_eq_some_iff.mp found
  refine ⟨⟨_, List.getElem?_eq_getElem place.isLt, bound⟩, fun later param behind here => ?_⟩
  obtain ⟨within, rfl⟩ := List.getElem?_eq_some_iff.mp here
  exact unbound ⟨later, within⟩ behind

/-- The last place bound to a variable is its slot. -/
theorem lastSlot?_of_lastBound {place : Nat} (last : LastBound params index place)
    : ∃ within, lastSlot? params index = some ⟨place, within⟩ := by
  obtain ⟨param, here, bound⟩ := last.bound
  obtain ⟨within, rfl⟩ := List.getElem?_eq_some_iff.mp here
  refine ⟨within, lastSlot?_eq_some_iff.mpr ⟨bound, fun later behind => ?_⟩⟩
  exact last.last later _ behind (List.getElem?_eq_getElem later.isLt)

end Param

namespace Definition

variable {definition : Definition} {args args' : Array Float} {assignment : UInt64 → Float}

/-- Every variable of the body has the argument at the last place bound to it as its value,
and there is such a place and an argument there.
-/
def Reads (definition : Definition) (args : Array Float) (assignment : UInt64 → Float) : Prop :=
  ∀ index ∈ definition.body.vars,
    ∃ place,
      Param.LastBound definition.params index place ∧ args[place]? = some (assignment index)

/-- The argument at the place is of no use to the body. -/
inductive Ignores (definition : Definition) (place : Nat) : Prop where
  | placeholder {param : Param} (here : definition.params[place]? = some param)
    (unbound : param.boundTo = none)
  /-- The body does not mention the variable of the parameter. -/
  | unmentioned {param : Param} {index : UInt64}
    (here : definition.params[place]? = some param) (bound : param.boundTo = some index)
    (absent : index ∉ definition.body.vars)
  /-- A later parameter is bound to the same variable. -/
  | shadowed {param again : Param} {index : UInt64} {later : Nat}
    (here : definition.params[place]? = some param) (bound : param.boundTo = some index)
    (behind : place < later) (there : definition.params[later]? = some again)
    (boundAgain : again.boundTo = some index)

/-- A place which is read for a variable of the body is not ignored. -/
theorem not_ignores_of_lastBound {index : UInt64} {place : Nat}
    (member : index ∈ definition.body.vars)
    (last : Param.LastBound definition.params index place)
    : ¬definition.Ignores place := by
  obtain ⟨param, here, bound⟩ := last.bound
  intro ignored
  cases ignored with
  | placeholder here' unbound =>
      cases here.symm.trans here'
      cases bound.symm.trans unbound
  | unmentioned here' bound' absent =>
      cases here.symm.trans here'
      cases bound.symm.trans bound'
      exact absent member
  | shadowed here' bound' behind there boundAgain =>
      cases here.symm.trans here'
      cases bound.symm.trans bound'
      exact last.last _ _ behind there boundAgain

/-- Arguments which agree except where they are ignored give the variables the same values. -/
theorem Reads.congr (reads : definition.Reads args assignment)
    (agree : ∀ place, ¬definition.Ignores place → args'[place]? = args[place]?)
    : definition.Reads args' assignment := by
  intro index member
  obtain ⟨place, last, value⟩ := reads index member
  exact ⟨place, last, (agree place (not_ignores_of_lastBound member last)).trans value⟩

variable {program : Program definition.params.length}

/-- As many arguments as parameters can be read, since linking found a slot for each variable.
-/
theorem exists_reads
    (linked : Program.link (Param.lastSlot? definition.params) definition.body = .ok program)
    (many : args.size = definition.params.length)
    : ∃ assignment, definition.Reads args assignment := by
  refine ⟨definition.assignment args, fun index member => ?_⟩
  obtain ⟨place, found⟩ := Program.slot_of_link linked index member
  have within : place.val < args.size := by
    rw [many]
    exact place.isLt
  exact ⟨place, Param.lastBound_of_lastSlot? found, getElem?_slot found within⟩

/-- The evaluator has the value of the body for what is read. -/
theorem call_of_reads
    (linked : Program.link (Param.lastSlot? definition.params) definition.body = .ok program)
    (many : args.size = definition.params.length) (reads : definition.Reads args assignment)
    : (definition.evaluator program).call args = .ok (definition.body.eval assignment) := by
  refine call_of_linked linked many fun index member place found => ?_
  obtain ⟨place', last, value⟩ := reads index member
  obtain ⟨within, found'⟩ := Param.lastSlot?_of_lastBound last
  cases found.symm.trans found'
  exact value

/-- A call fails exactly if there are too many or too few arguments. -/
theorem call_eq_argumentCount_iff
    : (definition.evaluator program).call args
        = .error (.argumentCount definition.name definition.params.length args.size)
      ↔ args.size ≠ definition.params.length := by
  constructor
  · intro failed many
    rw [call_evaluator program many] at failed
    cases failed
  · exact fun differ => dif_neg differ

end Definition

/-- Calling the evaluator of a unit fails exactly for a wrong number of arguments. Otherwise
every variable of the body is bound to a parameter, the last such parameter has an argument,
and the call has the value of the body for these arguments. No other argument counts.
-/
theorem SourceUnit.call_reads_last_bound {unit : SourceUnit} {evaluator : Evaluator}
    (loaded : unit.load = .ok evaluator)
    : ∃ definition,
        unit.Defines definition
        ∧ evaluator.name = definition.name
        ∧ evaluator.params = definition.params
        ∧ ∀ args : Array Float,
            (evaluator.call args
                = .error (.argumentCount evaluator.name evaluator.params.length args.size)
              ↔ args.size ≠ evaluator.params.length)
            ∧ (args.size = evaluator.params.length
              → (∃ assignment, definition.Reads args assignment)
                ∧ ∀ assignment,
                    definition.Reads args assignment
                    → evaluator.call args = .ok (definition.body.eval assignment))
            ∧ ∀ args' : Array Float,
                args'.size = args.size
                → (∀ place, ¬definition.Ignores place → args'[place]? = args[place]?)
                → evaluator.call args' = evaluator.call args := by
  obtain ⟨definition, program, loads, rfl⟩ := load_eq_ok_iff.mp loaded
  refine ⟨definition, definition?_eq_some_iff.mp loads.first, rfl, rfl, fun args => ?_⟩
  refine ⟨Definition.call_eq_argumentCount_iff, ?_, ?_⟩
  · intro many
    exact ⟨Definition.exists_reads loads.linked many,
      fun assignment reads => Definition.call_of_reads loads.linked many reads⟩
  · intro args' size agree
    by_cases many : args.size = definition.params.length
    · obtain ⟨assignment, reads⟩ := Definition.exists_reads loads.linked many
      rw [Definition.call_of_reads loads.linked many reads,
        Definition.call_of_reads loads.linked (size.trans many) (reads.congr agree)]
    · have many' : args'.size ≠ definition.params.length := size ▸ many
      rw [Definition.call_eq_argumentCount_iff.mpr many,
        Definition.call_eq_argumentCount_iff.mpr many', size]

/-- Of two parameters bound to one variable the later one is read, and a parameter which is
only called like a variable is not.
-/
theorem SourceUnit.call_reads_last_bound_shadowed
    : ∃ evaluator,
        (ofBody (.binary .subtract (.var 1) (.var 3))
            [.ofVar 1, ⟨"x9", some 1⟩, .placeholder 0, ⟨"x2", some 3⟩]).load
          = .ok evaluator
        ∧ evaluator.call #[10, 5, 7, 2] = .ok (5 - 2)
        ∧ evaluator.call #[0, 5, 0, 2] = evaluator.call #[10, 5, 7, 2]
        ∧ evaluator.call #[10, 5] = .error (.argumentCount "fun" 4 2) := by
  let params : List Param := [.ofVar 1, ⟨"x9", some 1⟩, .placeholder 0, ⟨"x2", some 3⟩]
  obtain ⟨evaluator, loaded⟩
      : ∃ evaluator, (ofBody (.binary .subtract (.var 1) (.var 3)) params).load = .ok evaluator :=
    ⟨_, rfl⟩
  refine ⟨evaluator, loaded, ?_⟩
  obtain ⟨definition, defines, name, own, calls⟩ := call_reads_last_bound loaded
  cases definition?_eq_some_iff.mpr defines
  have second : Param.LastBound params 1 1 :=
    @Param.lastBound_of_lastSlot? params 1 (1 : Fin 4) rfl
  have fourth : Param.LastBound params 3 3 :=
    @Param.lastBound_of_lastSlot? params 3 (3 : Fin 4) rfl
  rw [name, own] at calls
  refine ⟨?_, ?_, ?_⟩
  · refine ((calls #[10, 5, 7, 2]).2.1 rfl).2 (fun index => if index = 1 then 5 else 2) ?_
    intro index member
    have oneOrThree : index = 1 ∨ index = 3 := by
      simpa [Expr.mem_vars, Expr.nodes, Expr.varIndex?, eq_comm] using member
    rcases oneOrThree with rfl | rfl
    · exact ⟨1, second, rfl⟩
    · exact ⟨3, fourth, rfl⟩
  · refine (calls #[10, 5, 7, 2]).2.2 #[0, 5, 0, 2] rfl fun place counts => ?_
    rcases place with _ | _ | _ | place
    · exact absurd (.shadowed rfl rfl (by decide : 0 < 1) rfl rfl) counts
    · rfl
    · exact absurd (.placeholder rfl rfl) counts
    · rfl
  · exact (calls #[10, 5]).1.mpr (by decide)

end Formulary
