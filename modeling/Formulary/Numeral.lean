import Formulary.Decimal.Basic

/-! Numerals: digits, a fraction after a mark, and a power of ten after the letter e. The
scanner takes the longest numeral at the front of a text; whether its power of ten is
complete is asked afterwards.
-/

namespace Formulary

/-- The fraction of a numeral as written. -/
structure Fraction where
  mark : Char
  digits : List Char

/-- The power of ten of a numeral as written. -/
structure PowerPart where
  sign : Option Char
  digits : List Char

/-- The parts of a numeral as written. -/
structure Numeral where
  whole : List Char
  fraction : Option Fraction
  power : Option PowerPart

namespace Fraction

/-- The characters of the fraction. -/
def chars (fraction : Fraction) : List Char :=
  fraction.mark :: fraction.digits

/-- Splits the fraction off the front of a text, `marks` being the characters which begin
one.
-/
def scan (marks : List Char) : List Char → Option Fraction × List Char
  | [] => (none, [])
  | c :: rest =>
      if c ∈ marks then
        (some { mark := c, digits := rest.takeWhile Char.isDigit },
          rest.dropWhile Char.isDigit)
      else (none, c :: rest)

/-- The fraction and the rest make up the text. -/
theorem chars_append_rest (marks text : List Char)
    : (scan marks text).1.elim [] chars ++ (scan marks text).2 = text := by
  cases text with
  | nil => rfl
  | cons c rest => by_cases h : c ∈ marks <;> simp [scan, chars, h]

end Fraction

namespace PowerPart

/-- The characters of the power part. -/
def chars (part : PowerPart) : List Char :=
  'e' :: part.sign.toList ++ part.digits

/-- The exponent which the part states. -/
def exponent (part : PowerPart) : Int :=
  let size : Int := Nat.ofDigitChars 10 part.digits 0
  if part.sign = some '-' then -size else size

/-- Splits a sign off the front of a text. -/
def scanSign : List Char → Option Char × List Char
  | [] => (none, [])
  | c :: rest => if c = '+' ∨ c = '-' then (some c, rest) else (none, c :: rest)

/-- Splits the power part off the front of a text. The sign and the digits may be missing.
-/
def scan : List Char → Option PowerPart × List Char
  | [] => (none, [])
  | c :: rest =>
      if c = 'e' then
        let (sign, digits) := scanSign rest
        (some { sign := sign, digits := digits.takeWhile Char.isDigit },
          digits.dropWhile Char.isDigit)
      else (none, c :: rest)

/-- The sign and the rest make up the text. -/
theorem sign_append_rest (text : List Char)
    : (scanSign text).1.toList ++ (scanSign text).2 = text := by
  cases text with
  | nil => rfl
  | cons c rest => by_cases h : c = '+' ∨ c = '-' <;> simp [scanSign, h]

/-- The power part and the rest make up the text. -/
theorem chars_append_rest (text : List Char)
    : (scan text).1.elim [] chars ++ (scan text).2 = text := by
  cases text with
  | nil => rfl
  | cons c rest =>
      by_cases h : c = 'e'
      · simp [scan, chars, h, sign_append_rest]
      · simp [scan, h]

end PowerPart

namespace Numeral

/-- The characters of the numeral as they stand in the text. -/
def chars (numeral : Numeral) : List Char :=
  numeral.whole ++ numeral.fraction.elim [] Fraction.chars
    ++ numeral.power.elim [] PowerPart.chars

/-- The numeral written with a point as its mark. -/
def text (numeral : Numeral) : String :=
  let pointed := numeral.fraction.map fun fraction => { fraction with mark := '.' }
  String.ofList (chars { numeral with fraction := pointed })

/-- The digits after the mark. -/
def fractionDigits (numeral : Numeral) : List Char :=
  numeral.fraction.elim [] Fraction.digits

/-- The numeral has neither a fraction nor a power of ten. -/
def isWhole (numeral : Numeral) : Bool :=
  numeral.fraction.isNone && numeral.power.isNone

/-- Digits stand where they are needed: before or after the mark, and in the power of ten
if there is one.
-/
def isComplete (numeral : Numeral) : Bool :=
  !(numeral.whole ++ numeral.fractionDigits).isEmpty
    && numeral.power.all fun part => !part.digits.isEmpty

/-- The exact value. -/
def toDecimal (numeral : Numeral) : Decimal :=
  { coefficient := Nat.ofDigitChars 10 (numeral.whole ++ numeral.fractionDigits) 0
    exponent := numeral.power.elim 0 PowerPart.exponent - numeral.fractionDigits.length }

/-- Splits the longest numeral off the front of a text. -/
def scan (marks : List Char) (text : List Char) : Numeral × List Char :=
  let (fraction, rest) := Fraction.scan marks (text.dropWhile Char.isDigit)
  let (power, rest) := PowerPart.scan rest
  ({ whole := text.takeWhile Char.isDigit, fraction := fraction, power := power }, rest)

/-- The numeral and the rest make up the text. -/
theorem chars_append_rest (marks text : List Char)
    : (scan marks text).1.chars ++ (scan marks text).2 = text := by
  simp only [scan, chars, List.append_assoc]
  rw [PowerPart.chars_append_rest, Fraction.chars_append_rest,
    List.takeWhile_append_dropWhile]

end Numeral

end Formulary
