import Formulary.Proofs.Loading.Linking
import Formulary.Proofs.Loading.Slots

/-! Which units can be loaded, and into what. The faults of a unit are independent of each
other, so a unit loads exactly if it has none of them.
-/

namespace Formulary

open Outcomes

/-- The evaluator which runs the program for the body of the definition. -/
def Definition.evaluator (definition : Definition) (program : Program definition.params.length)
    : Evaluator :=
  { name := definition.name
    params := definition.params
    run := fun args => program.run args }

@[simp]
theorem Definition.params_evaluator (definition : Definition)
    (program : Program definition.params.length)
    : (definition.evaluator program).params = definition.params :=
  rfl

@[simp]
theorem Definition.arity_evaluator (definition : Definition)
    (program : Program definition.params.length)
    : (definition.evaluator program).arity = definition.params.length :=
  rfl

/-- With as many arguments as parameters the program is run. -/
theorem Definition.call_evaluator {definition : Definition}
    (program : Program definition.params.length) {args : Array Float}
    (many : args.size = definition.params.length)
    : (definition.evaluator program).call args = .ok (program.run ⟨args, many⟩) :=
  dif_pos many

/-- The evaluator has the value of the body under every assignment which gives the variables
the arguments in their slots.
-/
theorem Definition.call_of_linked {definition : Definition}
    {program : Program definition.params.length}
    (linked : Program.link (Param.lastSlot? definition.params) definition.body = .ok program)
    {args : Array Float} (many : args.size = definition.params.length)
    {assignment : UInt64 → Float}
    (agree
      : ∀ index ∈ definition.body.vars,
          ∀ place : Fin definition.params.length,
            Param.lastSlot? definition.params index = some place
            → args[place.val]? = some (assignment index))
    : (definition.evaluator program).call args = .ok (definition.body.eval assignment) := by
  rw [call_evaluator program many]
  refine congrArg Except.ok (Program.run_of_link linked fun index member place found => ?_)
  obtain ⟨_, here⟩ := Array.getElem?_eq_some_iff.mp (agree index member place found)
  exact here

/-- The assignment which gives every variable the argument in its slot. -/
def Definition.assignment (definition : Definition) (args : Array Float) (index : UInt64)
    : Float :=
  (Param.lastSlot? definition.params index).elim 0 fun place => args.getD place 0

/-- A variable has the argument in its slot, if there is one. -/
theorem Definition.getElem?_slot {definition : Definition} {args : Array Float}
    {index : UInt64} {place : Fin definition.params.length}
    (found : Param.lastSlot? definition.params index = some place)
    (within : place.val < args.size)
    : args[place.val]? = some (definition.assignment args index) := by
  simp [assignment, found, within]

namespace SourceUnit

variable {unit : SourceUnit} {definition : Definition}

/-- The faults of a unit are looked for one after the other. -/
theorem load_of_first (first : unit.definition? = some definition)
    : unit.load
      = if unit.hasStrayReturn then .error (.malformedUnit .strayReturn)
        else
          match Param.repeatedName? [] definition.params with
          | some name => .error (.malformedUnit (.duplicateParam name))
          | none =>
              if definition.body.usesMath && !unit.importsMath then
                .error (.malformedUnit .mathNotImported)
              else
                (Program.link (Param.lastSlot? definition.params) definition.body).map
                  definition.evaluator := by
  cases stray : unit.hasStrayReturn with
  | true => simp [load, stray]
  | false =>
      cases repeated : Param.repeatedName? [] definition.params with
      | some name => simp [load, stray, first, repeated]
      | none =>
          cases math : definition.body.usesMath && !unit.importsMath with
          | true => simp [load, stray, first, repeated, math]
          | false =>
              simp only [load, stray, first, repeated, math, Bool.false_eq_true, if_false]
              cases Program.link (Param.lastSlot? definition.params) definition.body <;> rfl

/-- A unit with nothing else wrong with it is loaded unless a parameter name is repeated. -/
theorem load_of_linked {program : Program definition.params.length}
    (noReturn : unit.hasStrayReturn = false) (first : unit.definition? = some definition)
    (imported : definition.body.usesMath = true → unit.importsMath = true)
    (linked
      : Program.link (Param.lastSlot? definition.params) definition.body = .ok program)
    : unit.load
      = match Param.repeatedName? [] definition.params with
        | some name => .error (.malformedUnit (.duplicateParam name))
        | none => .ok (definition.evaluator program) := by
  have math : (definition.body.usesMath && !unit.importsMath) = false := by
    cases uses : definition.body.usesMath with
    | false => rfl
    | true => simp [imported uses]
  rw [load_of_first first, noReturn, math, linked]
  rfl

end SourceUnit

/-- The unit has none of the faults for which it would be refused, and this is the program
for its first definition.
-/
structure SourceUnit.Loads (unit : SourceUnit) (definition : Definition)
    (program : Program definition.params.length) : Prop where
  noReturn : unit.hasStrayReturn = false
  first : unit.definition? = some definition
  distinct : (definition.params.map Param.name).Nodup
  imported : definition.body.usesMath = true → unit.importsMath = true
  linked : Program.link (Param.lastSlot? definition.params) definition.body = .ok program

/-- A unit is loaded exactly if it has no fault, and its evaluator runs the linked program.
-/
theorem SourceUnit.load_eq_ok_iff {unit : SourceUnit} {evaluator : Evaluator}
    : unit.load = .ok evaluator
      ↔ ∃ definition program,
          unit.Loads definition program ∧ evaluator = definition.evaluator program := by
  constructor
  · intro loaded
    cases first : unit.definition? with
    | none =>
        cases stray : unit.hasStrayReturn <;> simp [load, stray, first] at loaded
    | some definition =>
        -- Each fault would have been the answer, so there is none of them.
        rw [load_of_first first] at loaded
        split at loaded
        · cases loaded
        rename_i stray
        split at loaded
        · cases loaded
        rename_i unique
        split at loaded
        · cases loaded
        rename_i math
        cases linked : Program.link (Param.lastSlot? definition.params) definition.body with
        | error error =>
            rw [linked] at loaded
            cases loaded
        | ok program =>
            rw [linked] at loaded
            cases loaded
            have imported : definition.body.usesMath = true → unit.importsMath = true := by
              intro uses
              simpa [uses] using math
            exact ⟨definition, program,
              {
                noReturn := eq_false_of_ne_true stray
                first := first
                distinct := (Param.repeatedName?_eq_none_iff.mp unique).1
                imported := imported
                linked := linked
              },
              rfl⟩
  · rintro ⟨definition, program, loads, rfl⟩
    have unique : Param.repeatedName? [] definition.params = none :=
      Param.repeatedName?_eq_none_iff.mpr ⟨loads.distinct, by simp⟩
    rw [load_of_linked loads.noReturn loads.first loads.imported loads.linked, unique]

end Formulary
