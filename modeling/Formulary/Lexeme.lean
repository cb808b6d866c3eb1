import Formulary.Error
import Formulary.Unicode.Numeric

/-! Lexemes. The first character decides what stands at the front of a text, and the
longest run of that kind is one lexeme. Not every lexeme has a token.
-/

namespace Formulary

/-- The characters at the front of a text which belong together, and the token they stand
for.
-/
structure Lexeme where
  chars : List Char
  token : Except Error Token

namespace Lexeme

/-- The variable with the digits as its index, which is 0 without digits. -/
def ofIndex (digits : List Char) : Lexeme :=
  let index := Nat.ofDigitChars 10 digits 0
  { chars := 'x' :: digits
    token :=
      if index < UInt64.size then .ok (.var (UInt64.ofNat index))
      else .error (.invalidNumeral (String.ofList ('x' :: digits))) }

/-- The function or constant with the word as its name. -/
def ofWord (word : List Char) : Lexeme :=
  { chars := word
    token :=
      match Token.ofWord? (String.ofList word) with
      | some token => .ok token
      | none => .error (.unknownWord (String.ofList word)) }

/-- The number which the numeral denotes. -/
def ofNumeral (numeral : Numeral) : Lexeme :=
  { chars := numeral.chars
    token :=
      match Number.ofNumeral? numeral with
      | some value => .ok (.number value)
      | none => .error (.invalidNumeral numeral.text) }

/-- The longest lexeme at the front of a text, if any begins with its first character. -/
def first? : List Char → Option Lexeme
  | [] => none
  | c :: rest =>
      if c = 'x' then some (ofIndex (rest.takeWhile Char.isDigit))
      else if Unicode.isAlphabetic c then
        some (ofWord ((c :: rest).takeWhile Unicode.isAlphanumeric))
      else if c.isDigit then some (ofNumeral (Numeral.scan ['.', ','] (c :: rest)).1)
      else (Token.ofMark? c).map fun token => { chars := [c], token := .ok token }

/-- A lexeme has at least one character. -/
theorem chars_ne_nil_of_first? {text : List Char} {lexeme : Lexeme}
    (found : first? text = some lexeme)
    : lexeme.chars ≠ [] := by
  unfold first? at found
  split at found
  · cases found
  · split at found
    · cases found
      simp [ofIndex]
    · split at found
      · rename_i alphabetic
        cases found
        simp [ofWord, Unicode.isAlphanumeric, alphabetic]
      · split at found
        · rename_i digit
          cases found
          simp [ofNumeral, Numeral.scan, Numeral.chars, digit]
        · obtain ⟨_, _, rfl⟩ := Option.map_eq_some_iff.mp found
          simp

/-- A lexeme stands at the front of its text. -/
theorem prefix_of_first? {text : List Char} {lexeme : Lexeme}
    (found : first? text = some lexeme)
    : lexeme.chars <+: text := by
  unfold first? at found
  split at found
  · cases found
  · split at found
    · rename_i isX
      cases found
      subst isX
      exact List.cons_prefix_cons.mpr ⟨rfl, List.takeWhile_prefix _⟩
    · split at found
      · cases found
        exact List.takeWhile_prefix _
      · split at found
        · cases found
          exact ⟨_, Numeral.chars_append_rest _ _⟩
        · obtain ⟨_, _, rfl⟩ := Option.map_eq_some_iff.mp found
          exact List.cons_prefix_cons.mpr ⟨rfl, List.nil_prefix⟩

end Lexeme

end Formulary
