import Formulary.Formula

/-! Units of code made from formulas. A unit is a list of items, of which only the first
definition counts; a unit put together by hand may be malformed.
-/

namespace Formulary

/-- A parameter of a definition. -/
structure Param where
  name : String
  /-- The variable whose value the argument is, if any. -/
  boundTo : Option UInt64
deriving DecidableEq

/-- A function with its parameters and its value. -/
structure Definition where
  name : String
  params : List Param
  body : Expr
deriving DecidableEq

/-- A part of a unit. -/
inductive Item where
  | importMath
  | define (definition : Definition)
  /-- A value returned outside a definition. -/
  | strayReturn (value : Expr)
deriving DecidableEq

/-- A list of items. -/
structure SourceUnit where
  items : List Item
deriving DecidableEq

namespace Param

/-- The parameter for a variable. -/
def ofVar (index : UInt64) : Param :=
  { name := "x" ++ index.toNat.repr, boundTo := some index }

/-- A parameter whose argument is not used. -/
def placeholder (number : Nat) : Param :=
  { name := "placeholder_" ++ number.repr, boundTo := none }

/-- No variable takes its value from the argument. -/
def isPlaceholder (param : Param) : Bool :=
  param.boundTo.isNone

end Param

/-- The definition as code. -/
def Definition.text (definition : Definition) : String :=
  "def " ++ definition.name ++ "(" ++ ", ".intercalate (definition.params.map Param.name)
    ++ ") -> float:\n    return " ++ definition.body.text ++ "\n"

namespace Item

/-- The item as code. -/
def text : Item → String
  | importMath => "import math\n"
  | define definition => definition.text
  | strayReturn value => "return " ++ value.text ++ "\n"

/-- The definition in the item. -/
def definition? : Item → Option Definition
  | define definition => some definition
  | _ => none

/-- The item is a return outside a definition. -/
def isStrayReturn : Item → Bool
  | strayReturn _ => true
  | _ => false

/-- The items with their first definition changed. -/
def updateFirst (change : Definition → Except Error Definition)
    : List Item → Except Error (List Item)
  | [] => .error .noDefinition
  | define first :: rest => do return define (← change first) :: rest
  | item :: rest => do return item :: (← updateFirst change rest)

end Item

namespace SourceUnit

/-- The unit without items. -/
def empty : SourceUnit :=
  { items := [] }

/-- The unit with one more item. -/
def push (unit : SourceUnit) (item : Item) : SourceUnit :=
  { items := unit.items ++ [item] }

/-- The unit without its last item. -/
def pop (unit : SourceUnit) : SourceUnit :=
  { items := unit.items.dropLast }

/-- The unit which imports the math namespace and defines one function with the body. -/
def ofBody (body : Expr) (params : List Param) : SourceUnit :=
  { items := [.importMath, .define { name := "fun", params := params, body := body }] }

/-- The first definition. -/
def definition? (unit : SourceUnit) : Option Definition :=
  unit.items.findSome? Item.definition?

/-- The unit with its first definition changed. -/
def update (unit : SourceUnit) (change : Definition → Except Error Definition)
    : Except Error SourceUnit := do
  return { items := ← Item.updateFirst change unit.items }

/-- The math namespace is imported somewhere. -/
def importsMath (unit : SourceUnit) : Bool :=
  unit.items.contains .importMath

/-- A return stands outside a definition. -/
def hasStrayReturn (unit : SourceUnit) : Bool :=
  unit.items.any Item.isStrayReturn

/-- The unit as code. -/
def text (unit : SourceUnit) : String :=
  String.join (unit.items.map Item.text)

end SourceUnit

namespace Formula

/-- The parameters of a formula, one for each variable in ascending order. -/
def params (formula : Formula) : List Param :=
  formula.vars.toList.map Param.ofVar

/-- The unit which defines the formula as a function of its variables. -/
def unit (formula : Formula) : SourceUnit :=
  .ofBody formula.expr formula.params

end Formula

end Formulary
