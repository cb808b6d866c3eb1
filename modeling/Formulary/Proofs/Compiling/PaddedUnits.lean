import Formulary.Proofs.Compiling.FormulaCompilation

/-! Units which can be loaded and are then made to take more arguments. Placeholders are
numbered from zero whatever the parameters before them are called, so a parameter with the
name of a placeholder is in the way, and nothing else is.
-/

namespace Formulary

open Outcomes

namespace Param

/-- Placeholders numbered from zero. -/
def placeholders (count : Nat) : List Param :=
  (List.range count).map placeholder

theorem length_placeholders (count : Nat) : (placeholders count).length = count := by
  simp [placeholders]

theorem nodup_names_placeholders (count : Nat) : ((placeholders count).map name).Nodup := by
  rw [placeholders, List.map_map]
  exact List.nodup_range.map name_placeholder_injective

theorem boundTo_of_mem_placeholders {count : Nat} {param : Param}
    (member : param ∈ placeholders count)
    : param.boundTo = none := by
  obtain ⟨_, _, rfl⟩ := List.mem_map.mp member
  rfl

/-- Parameters which are bound to nothing leave every variable its slot. -/
theorem lastSlot?_append {more : List Param} (unbound : ∀ param ∈ more, param.boundTo = none)
    (params : List Param) (index : UInt64)
    : lastSlot? (params ++ more) index
      = (lastSlot? params index).map (Fin.castLE (by simp)) := by
  induction params with
  | nil =>
      apply lastSlot?_eq_none_iff.mpr
      intro param member
      simp [unbound param member]
  | cons param rest ih =>
      simp only [List.cons_append, lastSlot?, ih]
      cases lastSlot? rest index with
      | some slot => rfl
      | none => by_cases bound : param.boundTo = some index <;> simp [bound]

/-- Of parameters with different names the first one is repeated whose name was seen
before.
-/
theorem repeatedName?_of_nodup {seen : List String} {params : List Param}
    (distinct : (params.map name).Nodup)
    : repeatedName? seen params = (params.map name).find? (· ∈ seen) := by
  induction params generalizing seen with
  | nil => rfl
  | cons param rest ih =>
      obtain ⟨fresh, distinct⟩ := List.nodup_cons.mp distinct
      unfold repeatedName?
      by_cases old : param.name ∈ seen
      · simp [old]
      · rw [if_neg old, ih distinct, List.map_cons, List.find?_cons_of_neg (by simpa using old)]
        -- The name just seen does not come again.
        apply List.find?_congr
        intro later member
        have other : later ≠ param.name := by
          rintro rfl
          exact fresh member
        simp [other]

/-- Behind parameters without a repeated name the first name is repeated which one of them
has.
-/
theorem repeatedName?_append {seen : List String} {params more : List Param}
    (fresh : repeatedName? seen params = none) (distinct : (more.map name).Nodup)
    : repeatedName? seen (params ++ more)
      = (more.map name).find? fun later => later ∈ params.map name ∨ later ∈ seen := by
  induction params generalizing seen with
  | nil => simpa using repeatedName?_of_nodup distinct
  | cons param rest ih =>
      unfold repeatedName? at fresh
      split at fresh
      · cases fresh
      · rename_i new
        rw [List.cons_append, repeatedName?, if_neg new, ih fresh]
        apply List.find?_congr
        intro later _
        simp [or_comm, or_left_comm, or_assoc]

/-- One of the parameters has the name of the placeholder. -/
def Taken (params : List Param) (number : Nat) : Prop :=
  (placeholder number).name ∈ params.map name

instance (params : List Param) (number : Nat) : Decidable (Taken params number) :=
  inferInstanceAs (Decidable (_ ∈ _))

/-- Behind parameters without a repeated name the first placeholder is repeated whose name
is taken.
-/
theorem repeatedName?_placeholders {params : List Param} (fresh : repeatedName? [] params = none)
    (count : Nat)
    : repeatedName? [] (params ++ placeholders count)
      = ((List.range count).find? (Taken params ·)).map fun number =>
          (placeholder number).name := by
  rw [repeatedName?_append fresh (nodup_names_placeholders count), placeholders, List.map_map,
    List.find?_map]
  simp [Function.comp_def, Taken]

end Param

namespace Item

/-- The items with another first definition. -/
def replaceFirst (definition : Definition) : List Item → List Item
  | [] => []
  | define _ :: rest => define definition :: rest
  | item :: rest => item :: replaceFirst definition rest

/-- The first definition is changed in its place, if it can be changed. -/
theorem updateFirst_of_first {items : List Item} {definition : Definition}
    (first : items.findSome? definition? = some definition)
    (change : Definition → Except Error Definition)
    : updateFirst change items = (change definition).map (replaceFirst · items) := by
  induction items with
  | nil => cases first
  | cons item rest ih =>
      cases item with
      | define own =>
          cases first
          cases changed : change definition
            <;> simp [updateFirst, changed, replaceFirst, Except.map]
      | importMath | strayReturn value =>
          rw [updateFirst, ih first]
          · cases change definition <;> rfl
          · simp

/-- The other definition comes first. -/
theorem definition?_replaceFirst {items : List Item} {definition : Definition}
    (first : items.findSome? definition? = some definition) (changed : Definition)
    : (replaceFirst changed items).findSome? definition? = some changed := by
  induction items with
  | nil => cases first
  | cons item rest ih =>
      cases item with
      | define own => rfl
      | importMath | strayReturn value => exact ih first

/-- No other item is touched. -/
theorem any_replaceFirst (kind : Item → Bool)
    (other : ∀ definition, kind (define definition) = false) (definition : Definition)
    (items : List Item)
    : (replaceFirst definition items).any kind = items.any kind := by
  induction items with
  | nil => rfl
  | cons item rest ih =>
      cases item with
      | define own => simp [replaceFirst, other]
      | importMath | strayReturn value => simp [replaceFirst, ih]

end Item

namespace SourceUnit

/-- The unit with another first definition. -/
def replaceFirst (unit : SourceUnit) (definition : Definition) : SourceUnit :=
  { items := Item.replaceFirst definition unit.items }

/-- The first definition is changed in its place, if it can be changed. -/
theorem update_of_first {unit : SourceUnit} {definition : Definition}
    (first : unit.definition? = some definition)
    (change : Definition → Except Error Definition)
    : unit.update change = (change definition).map unit.replaceFirst := by
  rw [update, Item.updateFirst_of_first first]
  cases change definition <;> rfl

theorem hasStrayReturn_replaceFirst (unit : SourceUnit) (definition : Definition)
    : (unit.replaceFirst definition).hasStrayReturn = unit.hasStrayReturn :=
  Item.any_replaceFirst _ (fun _ => rfl) definition unit.items

theorem importsMath_replaceFirst (unit : SourceUnit) (definition : Definition)
    : (unit.replaceFirst definition).importsMath = unit.importsMath := by
  rw [importsMath, List.contains_eq_any_beq]
  refine (Item.any_replaceFirst _ (fun _ => rfl) definition unit.items).trans ?_
  rw [importsMath, List.contains_eq_any_beq]

end SourceUnit

namespace Definition

/-- The definition with placeholders up to the number of arguments. -/
def padded (definition : Definition) (arity : Nat) : Definition :=
  { definition with
    params := definition.params ++ Param.placeholders (arity - definition.params.length) }

theorem length_params_padded {definition : Definition} {arity : Nat}
    (enough : definition.params.length ≤ arity)
    : (definition.padded arity).params.length = arity := by
  simp only [padded, List.length_append, Param.length_placeholders]
  omega

/-- The slots of variables do not change by padding. -/
theorem lastSlot?_padded (definition : Definition) (arity : Nat) (index : UInt64)
    : Param.lastSlot? (definition.padded arity).params index
      = (Param.lastSlot? definition.params index).map (Fin.castLE (by simp [padded])) :=
  Param.lastSlot?_append (fun _ => Param.boundTo_of_mem_placeholders) definition.params index

/-- What is linked without padding is linked with it. -/
theorem link_padded {definition : Definition} {program : Program definition.params.length}
    (linked : Program.link (Param.lastSlot? definition.params) definition.body = .ok program)
    (arity : Nat)
    : ∃ program',
        Program.link (Param.lastSlot? (definition.padded arity).params)
          (definition.padded arity).body
          = .ok program' := by
  apply Program.link_succeeds
  intro index member
  obtain ⟨place, found⟩ := Program.slot_of_link linked index member
  exact ⟨_, by rw [lastSlot?_padded, found]; rfl⟩

/-- With padding the same value is computed from the arguments in front. -/
theorem call_padded {definition : Definition} {arity : Nat}
    {program : Program definition.params.length}
    {program' : Program (definition.padded arity).params.length}
    (linked : Program.link (Param.lastSlot? definition.params) definition.body = .ok program)
    (linked'
      : Program.link (Param.lastSlot? (definition.padded arity).params)
          (definition.padded arity).body
        = .ok program')
    (enough : definition.params.length ≤ arity) {args : Array Float} (many : args.size = arity)
    : ((definition.padded arity).evaluator program').call args
      = (definition.evaluator program).call (args.take definition.params.length) := by
  have size : (args.take definition.params.length).size = definition.params.length := by
    simp [many, Nat.min_eq_left enough]
  have size' : args.size = (definition.padded arity).params.length := by
    rw [many, length_params_padded enough]
  -- Both programs have the value of the body where a variable has the argument in its slot.
  have within (place : Fin definition.params.length) : place.val < args.size := by
    rw [many]
    exact Nat.lt_of_lt_of_le place.isLt enough
  have value
      : (definition.evaluator program).call (args.take definition.params.length)
        = .ok (definition.body.eval (definition.assignment args)) := by
    refine call_of_linked linked size fun index _ place found => ?_
    rw [← getElem?_slot found (within place)]
    simp [within place]
  have value'
      : ((definition.padded arity).evaluator program').call args
        = .ok (definition.body.eval (definition.assignment args)) := by
    refine call_of_linked linked' size' fun index _ place found => ?_
    rw [lastSlot?_padded] at found
    obtain ⟨own, foundOwn, rfl⟩ := Option.map_eq_some_iff.mp found
    exact getElem?_slot foundOwn (within own)
  rw [value, value']

end Definition

namespace SourceUnit

/-- Without a conflict in the number of arguments a unit is loaded with its first definition
padded.
-/
theorem compile_of_fits {unit : SourceUnit} {definition : Definition} {request : CompileRequest}
    (first : unit.definition? = some definition)
    (fits : ¬request.Conflicts definition.params.length)
    : unit.compile request = (unit.replaceFirst (definition.padded request.arity)).load := by
  rw [compile, update_of_first first, Definition.fit_of_not_conflicts fits]
  rfl

/-- Compiling a unit with enough arguments loads it with its first definition padded. -/
theorem compile_of_first {unit : SourceUnit} {definition : Definition} {arity : Nat}
    (first : unit.definition? = some definition) (enough : definition.params.length ≤ arity)
    : unit.compile { arity := arity, strict := false }
      = (unit.replaceFirst (definition.padded arity)).load :=
  compile_of_fits first (by simpa [CompileRequest.Conflicts] using enough)

/-- Padding a unit which can be loaded comes down to the names of the placeholders. -/
theorem compile_of_loads {unit : SourceUnit} {definition : Definition}
    {program : Program definition.params.length} (loads : unit.Loads definition program)
    {arity : Nat} (enough : definition.params.length ≤ arity)
    : ∃ program',
        Program.link (Param.lastSlot? (definition.padded arity).params) definition.body
          = .ok program'
        ∧ unit.compile { arity := arity, strict := false }
          = match (List.range (arity - definition.params.length)).find?
                (Param.Taken definition.params ·) with
            | some number =>
                .error (.malformedUnit (.duplicateParam (Param.placeholder number).name))
            | none => .ok ((definition.padded arity).evaluator program') := by
  obtain ⟨program', linked⟩ := Definition.link_padded loads.linked arity
  have fresh : Param.repeatedName? [] definition.params = none :=
    Param.repeatedName?_eq_none_iff.mpr ⟨loads.distinct, by simp⟩
  have repeated
      : Param.repeatedName? [] (definition.padded arity).params
        = ((List.range (arity - definition.params.length)).find?
            (Param.Taken definition.params ·)).map fun number =>
              (Param.placeholder number).name :=
    Param.repeatedName?_placeholders fresh _
  have first
      : (unit.replaceFirst (definition.padded arity)).definition?
        = some (definition.padded arity) :=
    Item.definition?_replaceFirst loads.first _
  refine ⟨program', linked, ?_⟩
  rw [compile_of_first loads.first enough,
    load_of_linked ((hasStrayReturn_replaceFirst _ _).trans loads.noReturn) first
      (fun uses => (importsMath_replaceFirst _ _).trans (loads.imported uses)) linked,
    repeated]
  cases (List.range (arity - definition.params.length)).find? (Param.Taken definition.params ·)
    <;> rfl

/-- A unit which can be loaded can be made to take more arguments exactly if none of its
parameters has the name of a placeholder which is added. Then its own parameters come
first, and its value depends on their arguments as before. Otherwise the first placeholder
whose name is taken is refused as a duplicate.
-/
theorem compile_padded {unit : SourceUnit} {evaluator : Evaluator} {arity : Nat}
    (loaded : unit.load = .ok evaluator) (enough : evaluator.arity ≤ arity)
    : ((∀ number < arity - evaluator.arity, ¬Param.Taken evaluator.params number)
        → ∃ padded,
            unit.compile { arity := arity, strict := false } = .ok padded
            ∧ padded.arity = arity
            ∧ padded.params
              = evaluator.params ++ Param.placeholders (arity - evaluator.arity)
            ∧ (padded.params.map Param.name).Nodup
            ∧ ∀ args : Array Float,
                args.size = arity
                → padded.call args = evaluator.call (args.take evaluator.arity))
      ∧ ∀ number < arity - evaluator.arity,
          Param.Taken evaluator.params number
          → (∀ earlier < number, ¬Param.Taken evaluator.params earlier)
          → unit.compile { arity := arity, strict := false }
            = .error (.malformedUnit (.duplicateParam (Param.placeholder number).name)) := by
  obtain ⟨definition, program, loads, rfl⟩ := load_eq_ok_iff.mp loaded
  simp only [Definition.params_evaluator, Definition.arity_evaluator] at enough ⊢
  obtain ⟨program', linked, compiled⟩ := compile_of_loads loads enough
  constructor
  · intro free
    have none
        : (List.range (arity - definition.params.length)).find?
            (Param.Taken definition.params ·)
          = none := by
      apply List.find?_eq_none.mpr
      intro number member
      simpa using free number (List.mem_range.mp member)
    rw [none] at compiled
    refine ⟨_, compiled, Definition.length_params_padded enough, rfl, ?_, ?_⟩
    · -- What was compiled has been loaded, so its names differ.
      rw [compile_of_first loads.first enough] at compiled
      obtain ⟨_, _, loads', same⟩ := load_eq_ok_iff.mp compiled
      rw [same]
      exact loads'.distinct
    · exact fun args many => Definition.call_padded loads.linked linked enough many
  · intro number within taken first
    have found
        : (List.range (arity - definition.params.length)).find?
            (Param.Taken definition.params ·)
          = some number := by
      apply List.find?_range_eq_some.mpr
      simpa [within, taken] using first
    rw [compiled, found]

/-- A parameter called like a later placeholder is not in the way. -/
theorem compile_padded_high_number
    : ∃ evaluator padded,
        (ofBody (.var 1) [.placeholder 7, .ofVar 1]).load = .ok evaluator
        ∧ evaluator.arity ≤ 4
        ∧ (ofBody (.var 1) [.placeholder 7, .ofVar 1]).compile { arity := 4, strict := false }
          = .ok padded
        ∧ padded.params.map Param.name
          = ["placeholder_7", "x1", "placeholder_0", "placeholder_1"]
        ∧ padded.call #[1, 2, 3, 4] = evaluator.call #[1, 2] := by
  obtain ⟨evaluator, loaded, params⟩
      : ∃ evaluator,
          (ofBody (.var 1) [.placeholder 7, .ofVar 1]).load = .ok evaluator
          ∧ evaluator.params = [.placeholder 7, .ofVar 1] :=
    ⟨_, rfl, rfl⟩
  have enough : evaluator.arity ≤ 4 := by
    simp [Evaluator.arity, params]
  obtain ⟨padded, compiled, _, params', _, calls⟩ := (compile_padded loaded enough).1 (by
    rw [Evaluator.arity, params]
    decide)
  refine ⟨evaluator, padded, loaded, enough, compiled, ?_, ?_⟩
  · rw [params', Evaluator.arity, params]
    decide
  · have front := calls #[1, 2, 3, 4] rfl
    rwa [Evaluator.arity, params] at front

/-- Two parameters load, but a third argument would take the name of the second one. -/
theorem not_compile_padded_placeholder
    : ∃ evaluator,
        (ofBody (.var 1) [.ofVar 1, .placeholder 0]).load = .ok evaluator
        ∧ evaluator.arity ≤ 3
        ∧ (ofBody (.var 1) [.ofVar 1, .placeholder 0]).compile { arity := 3, strict := false }
          = .error (.malformedUnit (.duplicateParam "placeholder_0")) :=
  ⟨_, rfl, by decide, rfl⟩

end SourceUnit

end Formulary
