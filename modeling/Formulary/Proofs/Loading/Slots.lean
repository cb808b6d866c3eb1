import Formulary.Evaluator

/-! Where the arguments of a function go. A variable has its value from the last parameter
bound to it, and a repeated parameter name is found exactly if there is one.
-/

namespace Formulary.Param

/-- A variable has no slot exactly if no parameter is bound to it. -/
theorem lastSlot?_eq_none_iff {params : List Param} {index : UInt64}
    : lastSlot? params index = none ↔ ∀ param ∈ params, param.boundTo ≠ some index := by
  induction params with
  | nil => simp [lastSlot?]
  | cons param rest ih =>
      unfold lastSlot?
      cases found : lastSlot? rest index with
      | some slot =>
          have bound := mt ih.mpr (by simp [found])
          simp only [reduceCtorEq, List.mem_cons, false_iff]
          exact fun none => bound fun later member => none later (.inr member)
      | none =>
          have unbound := ih.mp found
          by_cases bound : param.boundTo = some index
          · simp [bound]
          · simpa [bound] using unbound

/-- No parameter behind the place is bound to the variable. -/
def UnboundAfter (params : List Param) (index : UInt64) (place : Fin params.length) : Prop :=
  ∀ later : Fin params.length, place < later → params[later].boundTo ≠ some index

theorem unboundAfter_succ {param : Param} {rest : List Param} {index : UInt64}
    {place : Fin rest.length}
    : UnboundAfter (param :: rest) index place.succ ↔ UnboundAfter rest index place := by
  simp [UnboundAfter, Fin.forall_fin_succ]

theorem unboundAfter_zero {param : Param} {rest : List Param} {index : UInt64}
    : UnboundAfter (param :: rest) index ⟨0, Nat.zero_lt_succ _⟩
      ↔ lastSlot? rest index = none := by
  rw [lastSlot?_eq_none_iff]
  simp [UnboundAfter, Fin.forall_fin_succ, Fin.forall_iff, List.forall_mem_iff_forall_getElem]

/-- The slot of a variable is the place of a parameter bound to it with none bound to it
behind, by induction on the parameters.
-/
theorem lastSlot?_eq_some_iff {params : List Param} {index : UInt64} {place : Fin params.length}
    : lastSlot? params index = some place
      ↔ params[place].boundTo = some index ∧ UnboundAfter params index place := by
  induction params with
  | nil => exact place.elim0
  | cons param rest ih =>
      unfold lastSlot?
      cases place using Fin.cases with
      | zero =>
          -- A slot in the rest is behind the first place.
          refine Iff.trans ?_ (and_congr_right fun _ => unboundAfter_zero.symm)
          cases found : lastSlot? rest index <;> simp [Fin.succ_ne_zero]
      | succ place =>
          rw [unboundAfter_succ]
          refine Iff.trans ?_ ih
          cases found : lastSlot? rest index with
          | some slot => simp
          | none => by_cases bound : param.boundTo = some index <;> simp [bound, Fin.ext_iff]

/-- No name is repeated exactly if the names differ from each other and from those seen
before.
-/
theorem repeatedName?_eq_none_iff {seen : List String} {params : List Param}
    : repeatedName? seen params = none
      ↔ (params.map name).Nodup ∧ ∀ param ∈ params, param.name ∉ seen := by
  induction params generalizing seen with
  | nil => simp [repeatedName?]
  | cons param rest ih =>
      unfold repeatedName?
      by_cases old : param.name ∈ seen
      · simp [old]
      · rw [if_neg old, ih]
        simp only [List.map_cons, List.nodup_cons, List.mem_map, List.mem_cons]
        grind

end Formulary.Param
