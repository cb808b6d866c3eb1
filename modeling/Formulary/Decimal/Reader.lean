import Formulary.Numeral

/-! Reading a binary64 value from a text which is nothing else: a sign, if any, and a
numeral with a point, or the name of an infinity or of NaN. Case does not count.
-/

namespace Formulary.Decimal

/-- The names of the values without digits. -/
def infinityNames : List (List Char) :=
  ["inf".toList, "infinity".toList]

/-- The value of a text without a sign, with the sign to go in front of it. -/
def readMagnitude? (negative : Bool) (text : List Char) : Option Float :=
  let text := text.map Char.toLower
  let signed := Binary64.ofIndex negative
  if text ∈ infinityNames then some (signed Binary64.infinity)
  else if text = "nan".toList then some (signed (Binary64.infinity + 1))
  else
    let (numeral, rest) := Numeral.scan ['.'] text
    if rest.isEmpty && numeral.isComplete then some (signed numeral.toDecimal.index)
    else none

/-- The value of a text. -/
def readFloat? (text : String) : Option Float :=
  match text.toList with
  | '-' :: rest => readMagnitude? true rest
  | '+' :: rest => readMagnitude? false rest
  | rest => readMagnitude? false rest

end Formulary.Decimal
