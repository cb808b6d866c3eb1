import Formulary.Proofs.Lexing.Numerals
import Formulary.Proofs.Reading.TokenPrefix

/-! Lexemes which stand before a mark or the end of the text. Each is found whole, and its
token comes first in the stream.
-/

namespace Formulary

namespace Token

/-- The name of a function is reserved for it. -/
theorem ofWord?_function (name : ElementaryFunction)
    : ofWord? name.name = some (.function name) := by
  cases name <;> decide +kernel

/-- The name of a constant is reserved for it. -/
theorem ofWord?_constant (name : NamedConstant)
    : ofWord? name.name = some (.constant name) := by
  cases name
  decide +kernel

/-- The character of an operator is kept for it. -/
theorem ofMark?_symbol (op : Operator) : ofMark? op.symbol = some (.operator op) := by
  cases op <;> rfl

end Token

namespace Lexeme

/-- What has the token of a mark is a mark. -/
theorem mem_markChars_of_ofMark? {c : Char} {token : Token}
    (mark : Token.ofMark? c = some token)
    : c ∈ markChars := by
  unfold Token.ofMark? at mark
  split at mark <;> first | decide | cases mark

/-- A mark is a lexeme whatever follows. -/
theorem first?_mark {c : Char} {token : Token} (mark : Token.ofMark? c = some token)
    (rest : List Char)
    : first? (c :: rest) = some { chars := [c], token := .ok token } := by
  have member := mem_markChars_of_ofMark? mark
  have notX : c ≠ 'x' := by
    rintro rfl
    exact absurd member (by decide)
  have delimited : Delimited [c] := delimited_cons member []
  have notLetter : Unicode.isAlphabetic c = false := delimited.stops _ (by decide) c rfl
  have notDigit : c.isDigit = false := delimited.stops_isDigit c rfl
  simp [first?, notX, notLetter, notDigit, mark]

/-- The letter x begins a variable. -/
theorem first?_x (rest : List Char)
    : first? ('x' :: rest) = some (ofIndex (rest.takeWhile Char.isDigit)) := by
  rw [first?, if_pos rfl]

/-- The variable with the index is found whole. -/
theorem first?_var (index : UInt64) {rest : List Char} (stops : Stops Char.isDigit rest)
    : first? ('x' :: Nat.toDigits 10 index.toNat ++ rest)
      = some {
          chars := 'x' :: Nat.toDigits 10 index.toNat
          token := .ok (.var index)
        } := by
  have digits : ∀ c ∈ Nat.toDigits 10 index.toNat, c.isDigit = true :=
    fun _ => isDigit_of_mem_toDigits
  have value : Nat.ofDigitChars 10 (Nat.toDigits 10 index.toNat) 0 = index.toNat :=
    Nat.ofDigitChars_ten_toDigits
  rw [List.cons_append, first?_x, takeWhile_append_of_stops digits stops, ofIndex]
  simp only [value, if_pos index.toNat_lt, UInt64.ofNat_toNat]

/-- The text is one word, and no variable. -/
def isWord : List Char → Bool
  | [] => false
  | c :: rest => Unicode.isAlphabetic c && c != 'x' && rest.all Unicode.isAlphanumeric

/-- The name of a function is a word. -/
theorem isWord_function (name : ElementaryFunction) : isWord name.name.toList = true := by
  cases name <;> decide +kernel

/-- The name of a constant is a word. -/
theorem isWord_constant (name : NamedConstant) : isWord name.name.toList = true := by
  cases name
  decide +kernel

/-- A word begins with a letter other than x, and goes on with letters and numbers. -/
theorem exists_of_isWord {word : List Char} (whole : isWord word = true)
    : ∃ first more,
        word = first :: more
        ∧ Unicode.isAlphabetic first = true
        ∧ first ≠ 'x'
        ∧ ∀ c ∈ word, Unicode.isAlphanumeric c = true := by
  cases word with
  | nil => cases whole
  | cons first more =>
      simp only [isWord, Bool.and_eq_true, bne_iff_ne, List.all_eq_true] at whole
      obtain ⟨⟨letter, notX⟩, letters⟩ := whole
      refine ⟨first, more, rfl, letter, notX, fun c member => ?_⟩
      rcases List.mem_cons.mp member with rfl | later
      · exact Unicode.isAlphanumeric_of_isAlphabetic letter
      · exact letters c later

/-- Another letter begins a word. -/
theorem first?_letter {first : Char} (letter : Unicode.isAlphabetic first = true)
    (notX : first ≠ 'x') (rest : List Char)
    : first? (first :: rest)
      = some (ofWord ((first :: rest).takeWhile Unicode.isAlphanumeric)) := by
  rw [first?, if_neg notX, if_pos letter]

/-- A word is found whole. -/
theorem first?_word {word : List Char} (whole : isWord word = true) {rest : List Char}
    (delimited : Delimited rest)
    : first? (word ++ rest) = some (ofWord word) := by
  have stops : Stops Unicode.isAlphanumeric rest := delimited.stops _ (by decide)
  obtain ⟨first, more, rfl, letter, notX, letters⟩ := exists_of_isWord whole
  have taken := takeWhile_append_of_stops letters stops
  rw [List.cons_append] at taken ⊢
  rw [first?_letter letter notX, taken]

/-- A digit begins a numeral, and neither a variable nor a word. -/
theorem first?_digit {first : Char} (digit : first.isDigit = true) (rest : List Char)
    : first? (first :: rest)
      = some (ofNumeral (Numeral.scan ['.', ','] (first :: rest)).1) := by
  have notX : first ≠ 'x' := by
    rintro rfl
    exact absurd digit (by decide)
  have notLetter := eq_of_isDigit Unicode.isAlphabetic false (by decide) digit
  simp [first?, notX, notLetter, digit]

/-- A numeral with which the text does not go on is found whole. -/
theorem first?_numeral {numeral : Numeral} (written : numeral.Written) {rest : List Char}
    (ends : numeral.EndsBefore rest)
    : first? (numeral.chars ++ rest) = some (ofNumeral numeral) := by
  obtain ⟨first, more, digit, front⟩ := written.exists_chars_eq
  have scanned := Numeral.scan_chars_append written ends
  rw [front, List.cons_append] at scanned ⊢
  rw [first?_digit digit, scanned]

end Lexeme

namespace TokenStream

/-- A lexeme which is found whole gives its token, and the stream goes on behind it. -/
theorem ofCursor_token {lexeme : Lexeme} {head : Token} {rest : List Char}
    (found : Lexeme.first? (lexeme.chars ++ rest) = some lexeme)
    (token : lexeme.token = .ok head) (behind : List Char)
    : ofCursor { behind := behind, ahead := lexeme.chars ++ rest }
      = .token head (ofCursor { behind := lexeme.chars.reverse ++ behind, ahead := rest }) := by
  have next
      : Cursor.next { behind := behind, ahead := lexeme.chars ++ rest }
        = (.ok (some head), { behind := lexeme.chars.reverse ++ behind, ahead := rest }) := by
    simp [Cursor.next, found, token, Except.map, Cursor.advance]
  rw [ofCursor]
  split
  · rename_i failed
    rw [next] at failed
    cases failed
  · rename_i ended
    rw [next] at ended
    cases ended
  · rename_i read
    rw [next] at read
    cases read
    rfl

/-- A failure at the cursor ends the stream. -/
theorem ofCursor_of_next_eq_error {cursor : Cursor} {error : Error}
    (failed : cursor.next.1 = .error error)
    : ofCursor cursor = .fault error := by
  rw [ofCursor]
  split
  · rename_i next
    rw [next] at failed
    cases failed
    rfl
  · rename_i ended
    rw [ended] at failed
    cases failed
  · rename_i read
    rw [read] at failed
    cases failed

/-- A lexeme without a token ends the stream. -/
theorem ofCursor_fault {lexeme : Lexeme} {error : Error} {rest : List Char}
    (found : Lexeme.first? (lexeme.chars ++ rest) = some lexeme)
    (token : lexeme.token = .error error) (behind : List Char)
    : ofCursor { behind := behind, ahead := lexeme.chars ++ rest } = .fault error :=
  ofCursor_of_next_eq_error (by simp [Cursor.next, found, token, Except.map])

/-- A character which begins no lexeme ends the stream. -/
theorem ofCursor_unexpected {c : Char} {rest : List Char}
    (missing : Lexeme.first? (c :: rest) = none) (behind : List Char)
    : ofCursor { behind := behind, ahead := c :: rest }
      = .fault (.unexpectedChar c behind.length behind.head?) :=
  ofCursor_of_next_eq_error
    (by simp [Cursor.next, missing, Cursor.position, Cursor.previous?])

/-- At the end of the text the stream is at its end. -/
theorem ofCursor_nil (behind : List Char)
    : ofCursor { behind := behind, ahead := [] } = .finish := by
  rw [ofCursor]
  rfl

end TokenStream

end Formulary
