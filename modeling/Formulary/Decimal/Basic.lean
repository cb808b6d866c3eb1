import Formulary.Binary64

/-! Decimal numbers as a whole coefficient and a power of ten, and the binary64 magnitude
nearest to each.
-/

namespace Formulary

/-- The number `coefficient * 10 ^ exponent`. -/
structure Decimal where
  coefficient : Nat
  exponent : Int
deriving DecidableEq

namespace Decimal

/-- The digits of the coefficient, without leading zeros. -/
def digits (decimal : Decimal) : List Char :=
  Nat.toDigits 10 decimal.coefficient

/-- The least power of ten above the number, if the number is not zero. -/
def order (decimal : Decimal) : Int :=
  decimal.digits.length + decimal.exponent

/-- The binary64 index nearest to the number, a tie going to the even index. Numbers from
`10 ^ 310` are infinite and those below `10 ^ -330` are zero, so no power is formed for
them.
-/
def index (decimal : Decimal) : Nat :=
  if decimal.coefficient = 0 then 0
  else if 310 < decimal.order then Binary64.infinity
  else if decimal.order < -330 then 0
  else
    -- The number in ticks.
    let num := decimal.coefficient * Binary64.ticksPerUnit
    if 0 ≤ decimal.exponent then Binary64.nearest (num * Nat.pow 10 decimal.exponent.toNat) 1
    else Binary64.nearest num (Nat.pow 10 (-decimal.exponent).toNat)

/-- The binary64 value nearest to the number. -/
def toFloat (decimal : Decimal) : Float :=
  Binary64.ofIndex false decimal.index

/-- The same number with no trailing zero in its coefficient. -/
def trim (decimal : Decimal) : Decimal :=
  if decimal.coefficient ≠ 0 ∧ decimal.coefficient % 10 = 0 then
    trim { coefficient := decimal.coefficient / 10, exponent := decimal.exponent + 1 }
  else decimal
termination_by decimal.coefficient
decreasing_by omega

end Decimal

end Formulary
