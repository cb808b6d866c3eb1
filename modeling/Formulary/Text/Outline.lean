/-! The outline of a tree, in which every part stands on a line of its own, four spaces
further in than the part it belongs to.
-/

namespace Formulary.Text

/-- A tree of named parts. -/
inductive Outline where
  | atom (text : String)
  | tuple (name : String) (parts : List Outline)
  | record (name : String) (fields : List (String × Outline))

namespace Outline

/-- The blanks in front of a line at the given depth. -/
def margin (depth : Nat) : String :=
  String.ofList (List.replicate (4 * depth) ' ')

mutual

/-- The outline whose first line continues a line and whose others have the given depth.
-/
def render (depth : Nat) : Outline → String
  | atom text => text
  | tuple name parts =>
      name ++ "(\n" ++ renderParts (depth + 1) parts ++ margin depth ++ ")"
  | record name fields =>
      name ++ " \x7b\n" ++ renderFields (depth + 1) fields ++ margin depth ++ "\x7d"

/-- The lines of parts without names. -/
def renderParts (depth : Nat) : List Outline → String
  | [] => ""
  | part :: rest => margin depth ++ render depth part ++ ",\n" ++ renderParts depth rest

/-- The lines of parts with names. -/
def renderFields (depth : Nat) : List (String × Outline) → String
  | [] => ""
  | (name, part) :: rest =>
      margin depth ++ name ++ ": " ++ render depth part ++ ",\n"
        ++ renderFields depth rest

end

/-- The text of an outline. -/
def text (outline : Outline) : String :=
  outline.render 0

end Outline

end Formulary.Text
