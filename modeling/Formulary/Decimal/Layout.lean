import Formulary.Decimal.Shortest

/-! How a binary64 value is written with its shortest digits. A layout holds the decisions
in which the written forms differ.
-/

namespace Formulary.Decimal

/-- The decisions of one written form. -/
structure Layout where
  /-- Which of two equally near digit strings is written. -/
  tie : Tie
  /-- The powers of ten of the first digit which are written without an exponent, the
  second bound excluded. Without bounds no exponent is ever written.
  -/
  positional : Option (Int × Int)
  /-- A whole value in positional form ends in `.0`. -/
  pointZero : Bool
  /-- A positive exponent has a plus sign. -/
  plusSign : Bool

namespace Layout

/-- The first digit's power of ten is written without an exponent. -/
def isPositional (layout : Layout) (power : Int) : Bool :=
  match layout.positional with
  | none => true
  | some (low, high) => low ≤ power && power < high

/-- The digits with the point at the place `point`, counted from the first digit. -/
def positionalDigits (layout : Layout) (digits : List Char) (point : Int) : List Char :=
  if point ≤ 0 then '0' :: '.' :: List.replicate (-point).toNat '0' ++ digits
  else if digits.length ≤ point.toNat then
    digits ++ List.replicate (point.toNat - digits.length) '0'
      ++ (if layout.pointZero then ['.', '0'] else [])
  else digits.take point.toNat ++ '.' :: digits.drop point.toNat

/-- The digits with the point after the first one, and a power of ten. -/
def exponentDigits (layout : Layout) (digits : List Char) (power : Int) : List Char :=
  let fraction := if digits.length ≤ 1 then [] else '.' :: digits.drop 1
  let sign := if power < 0 then ['-'] else if layout.plusSign then ['+'] else []
  digits.take 1 ++ fraction ++ 'e' :: sign ++ Nat.toDigits 10 power.natAbs

/-- The magnitude at a finite index. -/
def magnitude (layout : Layout) (index : Nat) : List Char :=
  if index = 0 then if layout.pointZero then ['0', '.', '0'] else ['0']
  else
    let decimal := shortest layout.tie index
    if layout.isPositional (decimal.order - 1) then
      layout.positionalDigits decimal.digits decimal.order
    else layout.exponentDigits decimal.digits (decimal.order - 1)

/-- The written form of a value. -/
def text (layout : Layout) (x : Float) : String :=
  match Binary64.view x with
  | .nan => "NaN"
  | .infinite negative => if negative then "-inf" else "inf"
  | .finite negative index =>
      String.ofList ((if negative then ['-'] else []) ++ layout.magnitude index)

end Layout

end Formulary.Decimal
