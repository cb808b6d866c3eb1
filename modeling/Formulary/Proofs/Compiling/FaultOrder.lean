import Formulary.Proofs.Compiling.PaddedUnits
import Formulary.Proofs.Loading.FirstFaults

/-! Which units put together by hand can be compiled, and what is said about the others. A
missing definition comes first, then the number of arguments, and the faults of loading are
those of the padded parameters.
-/

namespace Formulary

namespace SourceUnit

variable {unit other : SourceUnit} {definition : Definition} {request : CompileRequest}

/-- A conflict in the number of arguments is met before the unit is loaded. -/
theorem compile_of_conflicts (first : unit.definition? = some definition)
    (conflicts : request.Conflicts definition.params.length)
    : unit.compile request
      = .error (.arityMismatch definition.params.length request.arity request.strict) := by
  rw [compile, update_of_first first, Definition.fit_of_conflicts conflicts]
  rfl

/-- The other unit imports the math namespace and returns outside a definition exactly if
this one does.
-/
structure SameSurroundings (unit other : SourceUnit) : Prop where
  imports : .importMath ∈ other.items ↔ .importMath ∈ unit.items
  returns : other.Returns ↔ unit.Returns

namespace SameSurroundings

variable {params : List Param} {body : Expr} {fault : UnitFault}

theorem symm (same : unit.SameSurroundings other) : other.SameSurroundings unit :=
  ⟨same.imports.symm, same.returns.symm⟩

end SameSurroundings

/-- The definition itself comes first in the unit which is loaded. -/
theorem definition?_replaceFirst (first : unit.definition? = some definition)
    (changed : Definition)
    : (unit.replaceFirst changed).definition? = some changed :=
  Item.definition?_replaceFirst first changed

end SourceUnit

end Formulary
