import Formulary.Binary64

/-! The functions and constants with a name in formulas. Every function takes one
argument, and outside its domain it has the value which the binary64 format prescribes.
-/

namespace Formulary

/-- A function of one argument. -/
inductive ElementaryFunction where
  | sqrt
  | ln
  | log10
  | exp
  | round
  | sin
  | cos
  | tan
  | asin
  | acos
  | atan
  | sinh
  | cosh
  | tanh
  | asinh
  | acosh
  | atanh
deriving DecidableEq

/-- A constant with a name. -/
inductive NamedConstant where
  | pi
deriving DecidableEq

/-- The whole value nearest to `x`, a tie going to the even one. Between `2 ^ 52` and `2 ^
53` neighbouring values differ by one, so adding `2 ^ 52` rounds a smaller magnitude;
larger ones are whole.
-/
def roundHalfEven (x : Float) : Float :=
  if x.abs < 4503599627370496 then
    let magnitude := (x.abs + 4503599627370496) - 4503599627370496
    if Binary64.isNegative x then -magnitude else magnitude
  else x

/-- The logarithm of one more than `x`. Where the sum is one, `x` itself is nearest. What
the sum loses by rounding is put back to first order, and a sum which is exact or infinite
loses nothing.
-/
def logOnePlus (x : Float) : Float :=
  let sum := 1 + x
  if sum == 1 then x
  else if sum - 1 == x then Float.log sum
  else Float.log sum + (x - (sum - 1)) / sum

/-- The inverse hyperbolic tangent, half the logarithm of `(1 + x) / (1 - x)`. The
quotient is one more than `2 * x / (1 - x)`.
-/
def inverseTanh (x : Float) : Float :=
  0.5 * logOnePlus (2 * x / (1 - x))

namespace ElementaryFunction

/-- All functions. -/
def all : List ElementaryFunction :=
  [sqrt, ln, log10, exp, round, sin, cos, tan, asin, acos, atan, sinh, cosh, tanh, asinh,
    acosh, atanh]

/-- The word for the function. -/
def name : ElementaryFunction → String
  | sqrt => "sqrt"
  | ln => "ln"
  | log10 => "log10"
  | exp => "exp"
  | round => "round"
  | sin => "sin"
  | cos => "cos"
  | tan => "tan"
  | asin => "asin"
  | acos => "acos"
  | atan => "atan"
  | sinh => "sinh"
  | cosh => "cosh"
  | tanh => "tanh"
  | asinh => "asinh"
  | acosh => "acosh"
  | atanh => "atanh"

/-- The function is only there once the math namespace is imported. Rounding is built in.
-/
def needsMath : ElementaryFunction → Bool
  | round => false
  | _ => true

/-- The value of the function. -/
def value : ElementaryFunction → Float → Float
  | sqrt => Float.sqrt
  | ln => Float.log
  | log10 => Float.log10
  | exp => Float.exp
  | round => roundHalfEven
  | sin => Float.sin
  | cos => Float.cos
  | tan => Float.tan
  | asin => Float.asin
  | acos => Float.acos
  | atan => Float.atan
  | sinh => Float.sinh
  | cosh => Float.cosh
  | tanh => Float.tanh
  | asinh => Float.asinh
  | acosh => Float.acosh
  | atanh => inverseTanh

/-- Every function is listed. -/
theorem mem_all (function : ElementaryFunction) : function ∈ all := by
  cases function <;> simp [all]

end ElementaryFunction

namespace NamedConstant

/-- The word for the constant. -/
def name : NamedConstant → String
  | pi => "pi"

/-- The value of the constant. -/
def value : NamedConstant → Float
  | pi => Float.ofBits 0x400921fb54442d18

end NamedConstant

end Formulary
