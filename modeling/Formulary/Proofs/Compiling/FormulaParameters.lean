import Formulary.Proofs.Loading.Slots
import Formulary.Proofs.Reading.Operands
import Mathlib.Data.List.Nodup

/-! The parameters of a formula which is made to take more arguments than it has variables.
Variables come first, so their slots are their ranks, and no name is used twice.
-/

namespace Formulary

namespace Param

/-- Numbered names with one stem have different numbers. -/
theorem eq_of_numbered {stem : String} {first second : Nat}
    (same : stem ++ first.repr = stem ++ second.repr)
    : first = second := by
  have digits : Nat.toDigits 10 first = Nat.toDigits 10 second := by
    simpa [Nat.toList_repr] using congrArg String.toList same
  calc
    first = Nat.ofDigitChars 10 (Nat.toDigits 10 first) 0 := Nat.ofDigitChars_ten_toDigits.symm
    _ = Nat.ofDigitChars 10 (Nat.toDigits 10 second) 0 := by rw [digits]
    _ = second := Nat.ofDigitChars_ten_toDigits

theorem name_ofVar_injective : Function.Injective fun index => (ofVar index).name :=
  fun _ _ same => UInt64.toNat_inj.mp (eq_of_numbered same)

theorem name_placeholder_injective
    : Function.Injective fun number => (placeholder number).name :=
  fun _ _ same => eq_of_numbered same

/-- No variable is named like a placeholder, by the first character. -/
theorem name_ofVar_ne_placeholder (index : UInt64) (number : Nat)
    : (ofVar index).name ≠ (placeholder number).name := by
  intro same
  have first := congrArg (fun name => name.toList.head?) same
  simp [ofVar, placeholder] at first

end Param

namespace Formula

/-- The placeholders which a formula needs for so many arguments. -/
def padding (formula : Formula) (arity : Nat) : List Param :=
  (List.range (arity - formula.params.length)).map Param.placeholder

theorem length_params (formula : Formula) : formula.params.length = formula.vars.size :=
  List.length_map _

/-- There are as many parameters as arguments, unless there are more variables. -/
theorem length_padded {formula : Formula} {arity : Nat} (few : formula.vars.size ≤ arity)
    : (formula.params ++ formula.padding arity).length = arity := by
  rw [List.length_append, padding, List.length_map, List.length_range, length_params]
  omega

/-- All names of the parameters are different. -/
theorem nodup_names (formula : Formula) (arity : Nat)
    : ((formula.params ++ formula.padding arity).map Param.name).Nodup := by
  rw [List.map_append, params, padding, List.map_map, List.map_map]
  refine (formula.vars.nodup.map Param.name_ofVar_injective).append
    (List.nodup_range.map Param.name_placeholder_injective) ?_
  intro name isVar isPlaceholder
  obtain ⟨index, _, rfl⟩ := List.mem_map.mp isVar
  obtain ⟨number, _, same⟩ := List.mem_map.mp isPlaceholder
  exact Param.name_ofVar_ne_placeholder index number same.symm

/-- The parameters are bound to the variables in ascending order, and padding to nothing. -/
theorem boundTo_padded (formula : Formula) (arity : Nat)
    (place : Fin (formula.params ++ formula.padding arity).length)
    : (formula.params ++ formula.padding arity)[place].boundTo
      = formula.vars.toList[place.val]? := by
  by_cases named : place.val < formula.params.length
  · have within : place.val < formula.vars.toList.length := by
      simpa [params] using named
    rw [Fin.getElem_fin, List.getElem_append_left named]
    simp [params, Param.ofVar, within]
  · have beyond : formula.vars.toList.length ≤ place.val := by
      simpa [params] using named
    rw [Fin.getElem_fin, List.getElem_append_right (Nat.not_lt.mp named)]
    simp [padding, Param.placeholder, beyond]

/-- The slot of a variable is its rank among the variables. -/
theorem lastSlot?_padded {formula : Formula} {arity : Nat} {index : UInt64}
    {place : Fin (formula.params ++ formula.padding arity).length}
    : Param.lastSlot? (formula.params ++ formula.padding arity) index = some place
      ↔ formula.vars.toList[place.val]? = some index := by
  rw [Param.lastSlot?_eq_some_iff, boundTo_padded]
  -- A later parameter bound to the same variable would make the set not ascending.
  refine and_iff_left_of_imp fun bound later behind again => ?_
  rw [boundTo_padded] at again
  obtain ⟨inside, here⟩ := List.getElem?_eq_some_iff.mp bound
  obtain ⟨within, there⟩ := List.getElem?_eq_some_iff.mp again
  have ascends := List.pairwise_iff_getElem.mp formula.vars.ascending _ _ inside within behind
  rw [here, there] at ascends
  exact UInt64.lt_irrefl index ascends

end Formula

end Formulary
