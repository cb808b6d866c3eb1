import Formulary.Proofs.Loading.LoadedUnits

/-! What is wrong with a unit which cannot be loaded. Faults are looked for in a fixed order, a
stray return first and a variable without a parameter last, and the first one found is the
answer.
-/

namespace Formulary

open Outcomes

namespace Expr

end Expr

namespace SourceUnit

/-- The definition is the first one in the unit. -/
def Defines (unit : SourceUnit) (definition : Definition) : Prop :=
  ∃ before after,
    unit.items = before ++ .define definition :: after ∧ ∀ other, .define other ∉ before

/-- A return stands somewhere outside a definition. -/
def Returns (unit : SourceUnit) : Prop :=
  ∃ value, .strayReturn value ∈ unit.items

theorem definition?_eq_some_iff {unit : SourceUnit} {definition : Definition}
    : unit.definition? = some definition ↔ unit.Defines definition := by
  rw [definition?, List.findSome?_eq_some_iff]
  constructor
  · intro ⟨before, item, after, split, found, undefined⟩
    cases item with
    | define first =>
        cases found
        refine ⟨before, after, split, fun other member => ?_⟩
        cases undefined _ member
    | importMath | strayReturn value => cases found
  · intro ⟨before, after, split, undefined⟩
    refine ⟨before, _, after, split, rfl, fun item member => ?_⟩
    cases item with
    | define other => exact absurd member (undefined other)
    | importMath | strayReturn value => rfl

section

variable {unit : SourceUnit} {definition : Definition}

end

end SourceUnit

end Formulary
