/-! Steps which may fail, one after the other. A sequence of them succeeds exactly when
each step does, and its first failure is the failure of the whole.
-/

namespace Formulary.Outcomes

variable {ε α β : Type}

/-- After a success the next step decides. -/
@[simp]
theorem ok_bind (value : α) (next : α → Except ε β) : (.ok value >>= next) = next value :=
  rfl

/-- After a failure nothing more is done. -/
@[simp]
theorem error_bind (error : ε) (next : α → Except ε β)
    : (.error error >>= next) = .error error :=
  rfl

/-- A success is mapped to a success. -/
theorem map_ok (change : α → β) (value : α)
    : (.ok value : Except ε α).map change = .ok (change value) :=
  rfl

/-- A value which is there is a success. -/
@[simp]
theorem pure_eq_ok (value : α) : (pure value : Except ε α) = .ok value :=
  rfl

/-- A failure which is thrown is the failure. -/
@[simp]
theorem throw_eq_error (error : ε) : (throw error : Except ε α) = .error error :=
  rfl

/-- Two steps succeed exactly when the first does and the second does on its value. -/
theorem bind_eq_ok_iff {first : Except ε α} {next : α → Except ε β} {result : β}
    : (first >>= next) = .ok result ↔ ∃ value, first = .ok value ∧ next value = .ok result := by
  cases first <;> simp

/-- Two steps fail exactly when the first does or the second does on its value. -/
theorem bind_eq_error_iff {first : Except ε α} {next : α → Except ε β} {error : ε}
    : (first >>= next) = .error error
      ↔ first = .error error ∨ ∃ value, first = .ok value ∧ next value = .error error := by
  cases first <;> simp

end Formulary.Outcomes
