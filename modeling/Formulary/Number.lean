import Formulary.Decimal.Layout
import Formulary.Numeral

/-! Numbers of a formula. A numeral without mark and power of ten is an integer if it fits
into 64 bits with a sign; every other number is real.
-/

namespace Formulary

/-- A numeric literal. -/
inductive Number where
  | integer (value : Int64)
  | real (value : Float)
deriving DecidableEq

namespace Number

/-- Real literals have no exponent from `10 ^ -4` to below `10 ^ 16`, whole ones keep
`.0`, and a tie goes to the larger digits.
-/
def layout : Decimal.Layout :=
  { tie := .up, positional := some (-4, 16), pointZero := true, plusSign := false }

/-- The number as formula text. -/
def text : Number → String
  | integer value => value.toInt.repr
  | real value => layout.text value

/-- The value for arithmetic, an integer going to the nearest binary64 value. -/
def toFloat : Number → Float
  | integer value => Binary64.ofInt value.toInt
  | real value => value

/-- The number which a complete numeral denotes. -/
def ofNumeral? (numeral : Numeral) : Option Number :=
  if !numeral.isComplete then none
  else
    let value := numeral.toDecimal
    if numeral.isWhole && value.coefficient < 1 <<< 63 then
      some (integer (Int64.ofNat value.coefficient))
    else some (real value.toFloat)

end Number

end Formulary
