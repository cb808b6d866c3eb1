import Formulary.Decimal.Basic

/-! The shortest decimal which reads back as a binary64 magnitude. On the grid of decimals
with a given count of digits only the two neighbours of the magnitude can do so; the first
grid with a hit wins, and of two hits the nearer.
-/

namespace Formulary.Decimal

/-- Which of two equally near decimals is taken. -/
inductive Tie where
  /-- The larger one. -/
  | up
  /-- The one with the even coefficient. -/
  | even

/-- The smaller of two equally near decimals is taken, `lower` being its coefficient. -/
def Tie.keepsLower : Tie → Nat → Bool
  | .up, _ => false
  | .even, lower => lower % 2 == 0

/-- Numerator and denominator of `count` ticks as a multiple of `10 ^ exponent`. -/
def scaled (count : Nat) (exponent : Int) : Nat × Nat :=
  if 0 ≤ exponent then (count, Binary64.ticksPerUnit * Nat.pow 10 exponent.toNat)
  else (count * Nat.pow 10 (-exponent).toNat, Binary64.ticksPerUnit)

/-- The least power of ten above a magnitude. No magnitude is below `10 ^ -324`, so each
has a whole part once multiplied by `10 ^ 330`, and the count of its digits tells the
order.
-/
def orderOf (index : Nat) : Int :=
  let (num, den) := scaled (Binary64.ticks index) (-330)
  (Nat.toDigits 10 (num / den)).length - 330

/-- The neighbour of the magnitude among the multiples of a power of ten which reads back
as the magnitude, the nearer one if both do.
-/
def neighbour? (tie : Tie) (index : Nat) (exponent : Int) : Option Decimal :=
  let (num, den) := scaled (Binary64.ticks index) exponent
  let lower : Decimal := { coefficient := num / den, exponent := exponent }
  let upper : Decimal := { coefficient := num / den + 1, exponent := exponent }
  -- Twice the magnitude is compared with the sum of the two neighbours.
  let middle := (2 * lower.coefficient + 1) * den
  if lower.index = index then
    if upper.index = index then
      if 2 * num < middle ∨ (2 * num = middle ∧ tie.keepsLower lower.coefficient)
      then some lower
      else some upper
    else some lower
  else if upper.index = index then some upper
  else none

/-- A magnitude with all its digits. -/
def allDigits (index : Nat) : Decimal :=
  { coefficient := Binary64.ticks index * Nat.pow 5 1074, exponent := -1074 }

/-- The decimal of fewest digits which reads back as the magnitude, and the nearest of
those. Seventeen digits always do.
-/
def shortest (tie : Tie) (index : Nat) : Decimal :=
  let order := orderOf index
  let onGrid (n : Nat) := neighbour? tie index (order - (n + 1))
  (((List.range 17).findSome? onGrid).getD (allDigits index)).trim

end Formulary.Decimal
