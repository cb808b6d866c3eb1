/-! The values of the binary64 format by index. The finite magnitudes are numbered from
zero in ascending order, an index being the bits of the value without the sign, and all
are whole multiples of the smallest positive one. So rounding to nearest is arithmetic on
naturals.
-/

namespace Formulary.Binary64

/-- How many indices share one exponent. -/
def binade : Nat := 1 <<< 52

/-- The index after the largest finite magnitude, which stands for infinity. -/
def infinity : Nat := 2047 * binade

/-- The bit which marks a negative value. -/
def signBit : Nat := 1 <<< 63

theorem binade_pos : 0 < binade := by decide

theorem signBit_pos : 0 < signBit := by decide

/-- The sign bit is beyond the index of any number. -/
theorem infinity_lt_signBit : infinity < signBit := by decide

/-- How many ticks make one. A tick is the smallest positive magnitude. -/
def ticksPerUnit : Nat := 1 <<< 1074

/-- The magnitude at an index, in ticks. -/
def ticks (index : Nat) : Nat :=
  if index < binade then index
  else (binade + index % binade) <<< (index / binade - 1)

/-- The last index whose magnitude is at most `count` ticks, exponents without bound. -/
def lastIndex (count : Nat) : Nat :=
  let shift := count.log2 - 52
  shift * binade + count >>> shift

/-- The index of the magnitude nearest to `num / den` ticks. A tie goes to the even index,
and what is nearer to the value after the largest finite one than to any other is
infinite.
-/
def nearest (num den : Nat) : Nat :=
  let lower := lastIndex (num / den)
  -- Twice the number is compared with the sum of its two neighbours.
  let middle := (ticks lower + ticks (lower + 1)) * den
  let index :=
    if 2 * num < middle ∨ (2 * num = middle ∧ lower % 2 = 0) then lower else lower + 1
  min index infinity

/-- The value with the sign and the magnitude index. -/
def ofIndex (negative : Bool) (index : Nat) : Float :=
  Float.ofBits (UInt64.ofNat (if negative then signBit + index else index))

/-- The magnitude index of a value. -/
def index (x : Float) : Nat :=
  x.toBits.toNat % signBit

/-- The value carries a minus sign. -/
def isNegative (x : Float) : Bool :=
  signBit ≤ x.toBits.toNat

/-- A value by its kind. -/
inductive View where
  | finite (negative : Bool) (index : Nat)
  | infinite (negative : Bool)
  | nan

/-- The kind of a value, read off its bits. -/
def view (x : Float) : View :=
  if index x < infinity then .finite (isNegative x) (index x)
  else if index x = infinity then .infinite (isNegative x)
  else .nan

/-- The value without what is behind its point. -/
def truncate (x : Float) : Float :=
  match view x with
  | .finite negative index =>
      ofIndex negative (lastIndex (ticks index / ticksPerUnit * ticksPerUnit))
  | _ => x

/-- What is behind the point of a value. -/
def fraction (x : Float) : Float :=
  x - truncate x

/-- The value nearest to an integer. -/
def ofInt (n : Int) : Float :=
  ofIndex (n < 0) (nearest (n.natAbs * ticksPerUnit) 1)

end Formulary.Binary64
