import Formulary.Decimal.Layout

/-! JSON values and their two written forms, one on a single line and one over several. -/

namespace Formulary

/-- A JSON value. An object has its members in order. -/
inductive Json where
  | null
  | bool (value : Bool)
  | integer (value : Int)
  | real (value : Float)
  | string (text : String)
  | array (items : List Json)
  | object (members : List (String × Json))

namespace Json

/-- Real numbers have no exponent from `10 ^ -5` to below `10 ^ 16`, whole ones keep `.0`,
an exponent has its sign, and a tie goes to the even digits.
-/
def layout : Decimal.Layout :=
  { tie := .even, positional := some (-5, 16), pointZero := true, plusSign := true }

/-- A character of a string. Quotation marks, backslashes and controls are escaped. -/
def escape (c : Char) : List Char :=
  if c = '"' then ['\\', '"']
  else if c = '\\' then ['\\', '\\']
  else if c = '\n' then ['\\', 'n']
  else if c = '\r' then ['\\', 'r']
  else if c = '\t' then ['\\', 't']
  else if c = '\x08' then ['\\', 'b']
  else if c = '\x0c' then ['\\', 'f']
  else if c.toNat < 0x20 then
    ['\\', 'u', '0', '0'] ++ (if c.toNat < 0x10 then ['0'] else [])
      ++ Nat.toDigits 16 c.toNat
  else [c]

/-- A string in its written form. -/
def quote (text : String) : String :=
  String.ofList ('"' :: text.toList.flatMap escape ++ ['"'])

/-- A real number in its written form. JSON has none for infinities and NaN. -/
def realText (value : Float) : String :=
  match Binary64.view value with
  | .finite .. => layout.text value
  | _ => "null"

/-- The text of a value without parts. -/
def atomText : Json → String
  | bool value => if value then "true" else "false"
  | integer value => value.repr
  | real value => realText value
  | string text => quote text
  | array _ => "[]"
  | object _ => "\x7b\x7d"
  | null => "null"

mutual

/-- The value on one line, without blanks. -/
def compact : Json → String
  | array (item :: rest) => "[" ++ item.compact ++ compactItems rest ++ "]"
  | object ((name, value) :: rest) =>
      "\x7b" ++ quote name ++ ":" ++ value.compact ++ compactMembers rest ++ "\x7d"
  | value => value.atomText

/-- The items after the first one. -/
def compactItems : List Json → String
  | [] => ""
  | item :: rest => "," ++ item.compact ++ compactItems rest

/-- The members after the first one. -/
def compactMembers : List (String × Json) → String
  | [] => ""
  | (name, value) :: rest =>
      "," ++ quote name ++ ":" ++ value.compact ++ compactMembers rest

end

/-- A new line, two blanks further in for each level. -/
def newLine (depth : Nat) : String :=
  String.ofList ('\n' :: List.replicate (2 * depth) ' ')

mutual

/-- The value over several lines, the last of them at the given depth. -/
def indented (depth : Nat) : Json → String
  | array (item :: rest) =>
      "[" ++ newLine (depth + 1) ++ item.indented (depth + 1)
        ++ indentedItems (depth + 1) rest ++ newLine depth ++ "]"
  | object ((name, value) :: rest) =>
      "\x7b" ++ newLine (depth + 1) ++ quote name ++ ": " ++ value.indented (depth + 1)
        ++ indentedMembers (depth + 1) rest ++ newLine depth ++ "\x7d"
  | value => value.atomText

/-- The items after the first one, each on its own lines. -/
def indentedItems (depth : Nat) : List Json → String
  | [] => ""
  | item :: rest =>
      "," ++ newLine depth ++ item.indented depth ++ indentedItems depth rest

/-- The members after the first one, each on its own lines. -/
def indentedMembers (depth : Nat) : List (String × Json) → String
  | [] => ""
  | (name, value) :: rest =>
      "," ++ newLine depth ++ quote name ++ ": " ++ value.indented depth
        ++ indentedMembers depth rest

end

/-- The value over several lines. -/
def pretty (value : Json) : String :=
  value.indented 0

end Json

end Formulary
