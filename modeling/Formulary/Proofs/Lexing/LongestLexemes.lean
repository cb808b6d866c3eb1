import Mathlib
import Formulary.Proofs.Lexing.Lexemes
import Formulary.Proofs.Lexing.LongestNumerals

/-! Lexemes by their shape and what they denote. The lexeme which is found at the front of a
text is the longest of those which stand there.
-/

namespace Formulary

/-- The characters have the shape of a lexeme: the letter x with digits behind it, another
letter with letters and numbers behind it, a numeral, or a mark.
-/
inductive IsLexeme : List Char → Prop where
  | var {digits : List Char} (all : ∀ c ∈ digits, c.isDigit = true) : IsLexeme ('x' :: digits)
  | word {word : List Char} (whole : Lexeme.isWord word = true) : IsLexeme word
  | numeral {numeral : Numeral} (written : numeral.Written) : IsLexeme numeral.chars
  | mark {c : Char} (member : c ∈ markChars) : IsLexeme [c]

/-- The lexeme denotes the token, or it is refused with the error. -/
inductive Denotes : List Char → Except Error Token → Prop where
  | var {digits : List Char} (all : ∀ c ∈ digits, c.isDigit = true)
    (fits : Nat.ofDigitChars 10 digits 0 < 2 ^ 64)
    : Denotes ('x' :: digits) (.ok (.var (UInt64.ofNat (Nat.ofDigitChars 10 digits 0))))
  | hugeVar {digits : List Char} (all : ∀ c ∈ digits, c.isDigit = true)
    (huge : 2 ^ 64 ≤ Nat.ofDigitChars 10 digits 0)
    : Denotes ('x' :: digits) (.error (.invalidNumeral (String.ofList ('x' :: digits))))
  | function (name : ElementaryFunction) : Denotes name.name.toList (.ok (.function name))
  | constant (name : NamedConstant) : Denotes name.name.toList (.ok (.constant name))
  | unknownWord {word : List Char} (whole : Lexeme.isWord word = true)
    (noFunction : ∀ name : ElementaryFunction, name.name.toList ≠ word)
    (noConstant : ∀ name : NamedConstant, name.name.toList ≠ word)
    : Denotes word (.error (.unknownWord (String.ofList word)))
  | integer {numeral : Numeral} (written : numeral.Written) (whole : numeral.isWhole = true)
    (fits : Nat.ofDigitChars 10 numeral.whole 0 < 2 ^ 63)
    : Denotes numeral.chars
        (.ok (.number (.integer (Int64.ofNat (Nat.ofDigitChars 10 numeral.whole 0)))))
  | real {numeral : Numeral} (written : numeral.Written)
    (complete : ∀ part ∈ numeral.power, part.digits ≠ [])
    (wide : numeral.isWhole = true → 2 ^ 63 ≤ Nat.ofDigitChars 10 numeral.whole 0)
    : Denotes numeral.chars (.ok (.number (.real numeral.toDecimal.toFloat)))
  | barePower {numeral : Numeral} (written : numeral.Written) {part : PowerPart}
    (power : numeral.power = some part) (bare : part.digits = [])
    : Denotes numeral.chars (.error (.invalidNumeral numeral.text))
  | operator (op : Operator) : Denotes [op.symbol] (.ok (.operator op))
  | leftParen : Denotes ['('] (.ok .leftParen)
  | rightParen : Denotes [')'] (.ok .rightParen)

/-- The word is the longest lexeme at the front of the text. -/
structure Longest (word text : List Char) : Prop where
  isLexeme : IsLexeme word
  isPrefix : word <+: text
  longest : ∀ other, IsLexeme other → other <+: text → other.length ≤ word.length

namespace Token

/-- A word is the name of a function or of a constant, or it is not reserved. -/
theorem ofWord?_cases (word : String)
    : (∃ name : ElementaryFunction, name.name = word ∧ ofWord? word = some (.function name))
      ∨ (∃ name : NamedConstant, name.name = word ∧ ofWord? word = some (.constant name))
      ∨ (∀ name : ElementaryFunction, name.name ≠ word)
        ∧ (∀ name : NamedConstant, name.name ≠ word)
        ∧ ofWord? word = none := by
  unfold ofWord?
  split
  · rename_i name found
    exact .inl ⟨name, by simpa using List.find?_some found, rfl⟩
  · rename_i missing
    have noFunction (name : ElementaryFunction) : name.name ≠ word := by
      simpa using List.find?_eq_none.mp missing name name.mem_all
    by_cases pi : NamedConstant.pi.name = word
    · exact .inr (.inl ⟨.pi, pi, by simp [pi]⟩)
    · refine .inr (.inr ⟨noFunction, fun name => ?_, ?_⟩)
      · cases name
        exact pi
      · simp [Ne.symm pi]

/-- The marks are the operators and the parentheses. -/
theorem ofMark?_cases {c : Char} {token : Token} (mark : ofMark? c = some token)
    : (∃ op : Operator, c = op.symbol ∧ token = .operator op)
      ∨ c = '(' ∧ token = .leftParen
      ∨ c = ')' ∧ token = .rightParen := by
  unfold ofMark? at mark
  split at mark <;> cases mark
  · exact .inl ⟨.add, rfl, rfl⟩
  · exact .inl ⟨.subtract, rfl, rfl⟩
  · exact .inl ⟨.multiply, rfl, rfl⟩
  · exact .inl ⟨.divide, rfl, rfl⟩
  · exact .inl ⟨.power, rfl, rfl⟩
  · exact .inr (.inl ⟨rfl, rfl⟩)
  · exact .inr (.inr ⟨rfl, rfl⟩)

/-- Every mark has a token. -/
theorem exists_ofMark? {c : Char} (member : c ∈ markChars) : ∃ token, ofMark? c = some token := by
  have all : markChars.all fun c => (ofMark? c).isSome := by decide
  exact Option.isSome_iff_exists.mp (List.all_eq_true.mp all c member)

end Token

namespace Number

variable {numeral : Numeral}

/-- A numeral with a power of ten without digits has no value. -/
theorem ofNumeral?_of_bare {part : PowerPart} (power : numeral.power = some part)
    (bare : part.digits = [])
    : ofNumeral? numeral = none := by
  simp [ofNumeral?, Numeral.isComplete, power, bare]

/-- The digits of a numeral without fraction and power of ten are those in front. -/
theorem coefficient_of_isWhole (whole : numeral.isWhole = true)
    : numeral.toDecimal.coefficient = Nat.ofDigitChars 10 numeral.whole 0 := by
  have none : numeral.fraction = none := by
    simp only [Numeral.isWhole, Bool.and_eq_true, Option.isNone_iff_eq_none] at whole
    exact whole.1
  simp [Numeral.toDecimal, Numeral.fractionDigits, none]

/-- A numeral is complete if its power of ten is. -/
theorem isComplete_of_power (written : numeral.Written)
    (complete : ∀ part ∈ numeral.power, part.digits ≠ [])
    : numeral.isComplete = true := by
  cases power : numeral.power with
  | none => simp [Numeral.isComplete, power, written.whole.1]
  | some part => simp [Numeral.isComplete, power, written.whole.1, complete part power]

/-- A complete numeral is an integer or real. -/
theorem ofNumeral?_of_isComplete (complete : numeral.isComplete = true)
    : ofNumeral? numeral
      = if numeral.isWhole && numeral.toDecimal.coefficient < 1 <<< 63
        then some (.integer (Int64.ofNat numeral.toDecimal.coefficient))
        else some (.real numeral.toDecimal.toFloat) := by
  rw [ofNumeral?, complete]
  rfl

/-- A numeral of digits alone is an integer if it is small enough. -/
theorem ofNumeral?_of_isWhole (written : numeral.Written) (whole : numeral.isWhole = true)
    (fits : Nat.ofDigitChars 10 numeral.whole 0 < 2 ^ 63)
    : ofNumeral? numeral
      = some (.integer (Int64.ofNat (Nat.ofDigitChars 10 numeral.whole 0))) := by
  have noPower : numeral.power = none := by
    simp only [Numeral.isWhole, Bool.and_eq_true, Option.isNone_iff_eq_none] at whole
    exact whole.2
  have complete := isComplete_of_power written (by simp [noPower])
  have small
      : (numeral.isWhole && decide (numeral.toDecimal.coefficient < 1 <<< 63)) = true := by
    rw [whole, coefficient_of_isWhole whole]
    exact decide_eq_true fits
  rw [ofNumeral?_of_isComplete complete, if_pos small, coefficient_of_isWhole whole]

/-- Every other numeral is real. -/
theorem ofNumeral?_of_complete (written : numeral.Written)
    (complete : ∀ part ∈ numeral.power, part.digits ≠ [])
    (wide : numeral.isWhole = true → 2 ^ 63 ≤ Nat.ofDigitChars 10 numeral.whole 0)
    : ofNumeral? numeral = some (.real numeral.toDecimal.toFloat) := by
  have large
      : ¬(numeral.isWhole && decide (numeral.toDecimal.coefficient < 1 <<< 63)) = true := by
    rw [Bool.and_eq_true, decide_eq_true_eq]
    rintro ⟨whole, small⟩
    rw [coefficient_of_isWhole whole] at small
    exact Nat.not_lt.mpr (wide whole) small
  rw [ofNumeral?_of_isComplete (isComplete_of_power written complete), if_neg large]

end Number

namespace Lexeme

/-- The token of a numeral is what it denotes. -/
theorem denotes_ofNumeral {numeral : Numeral} (written : numeral.Written)
    : Denotes numeral.chars (ofNumeral numeral).token := by
  by_cases complete : ∀ part ∈ numeral.power, part.digits ≠ []
  · by_cases small : numeral.isWhole = true ∧ Nat.ofDigitChars 10 numeral.whole 0 < 2 ^ 63
    · have value := Number.ofNumeral?_of_isWhole written small.1 small.2
      rw [ofNumeral, value]
      exact .integer written small.1 small.2
    · have wide (whole : numeral.isWhole = true) := Nat.not_lt.mp (not_and.mp small whole)
      have value := Number.ofNumeral?_of_complete written complete wide
      rw [ofNumeral, value]
      exact .real written complete wide
  · obtain ⟨part, power, bare⟩ : ∃ part, numeral.power = some part ∧ part.digits = [] := by
      simpa using complete
    have value := Number.ofNumeral?_of_bare power bare
    rw [ofNumeral, value]
    exact .barePower written power bare

/-- The token of a word is what it denotes. -/
theorem denotes_ofWord {word : List Char} (whole : isWord word = true)
    : Denotes word (ofWord word).token := by
  rcases Token.ofWord?_cases (String.ofList word) with
    ⟨name, same, known⟩ | ⟨name, same, known⟩ | ⟨noFunction, noConstant, unknown⟩
  · have spelled : word = name.name.toList := by simp [same]
    rw [ofWord, known, spelled]
    exact .function name
  · have spelled : word = name.name.toList := by simp [same]
    rw [ofWord, known, spelled]
    exact .constant name
  · rw [ofWord, unknown]
    refine .unknownWord whole (fun name same => ?_) (fun name same => ?_)
    · exact noFunction name (by simp [← same])
    · exact noConstant name (by simp [← same])

/-- An index of up to 64 bits is that of a variable. -/
theorem ofIndex_of_lt {digits : List Char} (fits : Nat.ofDigitChars 10 digits 0 < 2 ^ 64)
    : ofIndex digits
      = {
          chars := 'x' :: digits
          token := .ok (.var (UInt64.ofNat (Nat.ofDigitChars 10 digits 0)))
        } := by
  have fits : Nat.ofDigitChars 10 digits 0 < UInt64.size := fits
  simp only [ofIndex, if_pos fits]

/-- A greater index is refused. -/
theorem ofIndex_of_le {digits : List Char} (huge : 2 ^ 64 ≤ Nat.ofDigitChars 10 digits 0)
    : ofIndex digits
      = {
          chars := 'x' :: digits
          token := .error (.invalidNumeral (String.ofList ('x' :: digits)))
        } := by
  have huge : ¬Nat.ofDigitChars 10 digits 0 < UInt64.size := Nat.not_lt.mpr huge
  simp only [ofIndex, if_neg huge]

/-- The token of a variable is what it denotes. -/
theorem denotes_ofIndex {digits : List Char} (all : ∀ c ∈ digits, c.isDigit = true)
    : Denotes ('x' :: digits) (ofIndex digits).token := by
  by_cases fits : Nat.ofDigitChars 10 digits 0 < 2 ^ 64
  · rw [ofIndex_of_lt fits]
    exact .var all fits
  · rw [ofIndex_of_le (Nat.not_lt.mp fits)]
    exact .hugeVar all (Nat.not_lt.mp fits)

/-- The token of a mark is what it denotes. -/
theorem denotes_mark {c : Char} {token : Token} (mark : Token.ofMark? c = some token)
    : Denotes [c] (.ok token) := by
  rcases Token.ofMark?_cases mark with ⟨op, rfl, rfl⟩ | ⟨rfl, rfl⟩ | ⟨rfl, rfl⟩
  · exact .operator op
  · exact .leftParen
  · exact .rightParen

/-- Where a letter other than x comes first, the longest run is a word. -/
theorem isWord_takeWhile {first : Char} (letter : Unicode.isAlphabetic first = true)
    (notX : first ≠ 'x') (rest : List Char)
    : isWord ((first :: rest).takeWhile Unicode.isAlphanumeric) = true := by
  have continues := Unicode.isAlphanumeric_of_isAlphabetic letter
  simp [isWord, continues, letter, notX]

/-- What is found at the front of a text denotes its token. -/
theorem denotes_of_first? {text : List Char} {lexeme : Lexeme}
    (found : first? text = some lexeme)
    : Denotes lexeme.chars lexeme.token := by
  unfold first? at found
  split at found
  · cases found
  · rename_i first rest
    split at found
    · cases found
      exact denotes_ofIndex fun c member => List.all_eq_true.mp List.all_takeWhile c member
    · rename_i notX
      split at found
      · rename_i letter
        cases found
        exact denotes_ofWord (isWord_takeWhile letter notX rest)
      · split at found
        · rename_i digit
          cases found
          exact denotes_ofNumeral (Numeral.written_scan digit rest)
        · obtain ⟨token, mark, rfl⟩ := Option.map_eq_some_iff.mp found
          exact denotes_mark mark

/-- A numeral with nothing behind it is found whole. -/
theorem first?_chars {numeral : Numeral} (written : numeral.Written)
    : first? numeral.chars = some (ofNumeral numeral) := by
  simpa using first?_numeral written numeral.endsBefore_nil

/-- A word with nothing behind it is found whole. -/
theorem first?_isWord {word : List Char} (whole : isWord word = true)
    : first? word = some (ofWord word) := by
  simpa using first?_word whole delimited_nil

/-- What denotes something is found as that where nothing follows. -/
theorem first?_of_denotes {word : List Char} {outcome : Except Error Token}
    (denotes : Denotes word outcome)
    : first? word = some { chars := word, token := outcome } := by
  cases denotes with
  | var all fits => rw [first?_x, List.takeWhile_eq_self_iff.mpr all, ofIndex_of_lt fits]
  | hugeVar all huge => rw [first?_x, List.takeWhile_eq_self_iff.mpr all, ofIndex_of_le huge]
  | function name =>
      simp [first?_isWord (isWord_function name), ofWord, Token.ofWord?_function]
  | constant name =>
      simp [first?_isWord (isWord_constant name), ofWord, Token.ofWord?_constant]
  | @unknownWord word whole noFunction noConstant =>
      have unknown : Token.ofWord? (String.ofList word) = none := by
        rcases Token.ofWord?_cases (String.ofList word) with
          ⟨name, same, _⟩ | ⟨name, same, _⟩ | ⟨_, _, unknown⟩
        · exact absurd (by simp [same]) (noFunction name)
        · exact absurd (by simp [same]) (noConstant name)
        · exact unknown
      simp [first?_isWord whole, ofWord, unknown]
  | integer written whole fits =>
      simp [first?_chars written, ofNumeral, Number.ofNumeral?_of_isWhole written whole fits]
  | real written complete wide =>
      simp [first?_chars written, ofNumeral,
        Number.ofNumeral?_of_complete written complete wide]
  | barePower written power bare =>
      simp [first?_chars written, ofNumeral, Number.ofNumeral?_of_bare power bare]
  | operator op => exact first?_mark (Token.ofMark?_symbol op) []
  | leftParen => exact first?_mark rfl []
  | rightParen => exact first?_mark rfl []

/-- What denotes something has the shape of a lexeme. -/
theorem isLexeme_of_denotes {word : List Char} {outcome : Except Error Token}
    (denotes : Denotes word outcome)
    : IsLexeme word := by
  cases denotes with
  | var all | hugeVar all => exact .var all
  | function name => exact .word (isWord_function name)
  | constant name => exact .word (isWord_constant name)
  | unknownWord whole => exact .word whole
  | integer written | real written | barePower written => exact .numeral written
  | operator op => exact .mark (mem_markChars_of_ofMark? (Token.ofMark?_symbol op))
  | leftParen | rightParen => exact .mark (by decide)

/-- No lexeme at the front of a text is longer than the one which is found. -/
theorem exists_first?_of_isPrefix {word text : List Char} (isLexeme : IsLexeme word)
    (front : word <+: text)
    : ∃ lexeme, first? text = some lexeme ∧ word.length ≤ lexeme.chars.length := by
  obtain ⟨after, rfl⟩ := front
  cases isLexeme with
  | @var digits all =>
      refine ⟨_, first?_x (digits ++ after), ?_⟩
      simp [ofIndex, List.takeWhile_append_of_pos all]
  | @word word whole =>
      obtain ⟨first, more, rfl, letter, notX, letters⟩ := exists_of_isWord whole
      refine ⟨_, first?_letter letter notX (more ++ after), ?_⟩
      have taken
          : (first :: (more ++ after)).takeWhile Unicode.isAlphanumeric
            = first :: more ++ after.takeWhile Unicode.isAlphanumeric :=
        List.takeWhile_append_of_pos letters
      simp [ofWord, taken]
  | @numeral numeral written =>
      obtain ⟨first, more, digit, front⟩ := written.exists_chars_eq
      have longest := Numeral.length_chars_le_scan written after
      rw [front, List.cons_append] at longest ⊢
      exact ⟨_, first?_digit digit _, longest⟩
  | @mark c member =>
      obtain ⟨token, mark⟩ := Token.exists_ofMark? member
      exact ⟨_, first?_mark mark after, Nat.le_refl 1⟩

/-- Nothing is found at the front of a text exactly if no kind of lexeme begins there. -/
theorem first?_cons_eq_none_iff {c : Char} {rest : List Char}
    : first? (c :: rest) = none
      ↔ Unicode.isAlphabetic c = false ∧ c.isDigit = false ∧ c ∉ markChars := by
  constructor
  · intro missing
    have notX : c ≠ 'x' := by
      rintro rfl
      rw [first?_x] at missing
      cases missing
    refine ⟨eq_false_of_ne_true fun letter => ?_, eq_false_of_ne_true fun digit => ?_, ?_⟩
    · rw [first?_letter letter notX] at missing
      cases missing
    · rw [first?_digit digit] at missing
      cases missing
    · intro member
      obtain ⟨token, mark⟩ := Token.exists_ofMark? member
      rw [first?_mark mark] at missing
      cases missing
  · rintro ⟨noLetter, noDigit, noMark⟩
    have notX : c ≠ 'x' := by
      rintro rfl
      exact absurd noLetter (by decide)
    have noToken : Token.ofMark? c = none :=
      Option.eq_none_iff_forall_ne_some.mpr fun _ mark =>
        noMark (mem_markChars_of_ofMark? mark)
    simp [first?, notX, noLetter, noDigit, noToken]

/-- A lexeme is found at the front of a text exactly if it is the longest one there, with
the token which it denotes.
-/
theorem first?_eq_some_iff {text : List Char} {lexeme : Lexeme}
    : first? text = some lexeme
      ↔ Longest lexeme.chars text ∧ Denotes lexeme.chars lexeme.token := by
  constructor
  · intro found
    have denotes := denotes_of_first? found
    refine ⟨⟨isLexeme_of_denotes denotes, prefix_of_first? found, ?_⟩, denotes⟩
    intro other isLexeme front
    obtain ⟨longest, found', within⟩ := exists_first?_of_isPrefix isLexeme front
    rw [found] at found'
    cases found'
    exact within
  · rintro ⟨longest, denotes⟩
    obtain ⟨other, found, within⟩ :=
      exists_first?_of_isPrefix longest.isLexeme longest.isPrefix
    have denotes' := denotes_of_first? found
    have front := prefix_of_first? found
    have same : lexeme.chars = other.chars :=
      (List.prefix_of_prefix_length_le longest.isPrefix front within).eq_of_length_le
        (longest.longest _ (isLexeme_of_denotes denotes') front)
    -- Both tokens are what the same characters denote.
    have alone : first? lexeme.chars = some lexeme := first?_of_denotes denotes
    have alone' : first? other.chars = some other := first?_of_denotes denotes'
    rw [found, ← alone', ← same, alone]

end Lexeme

/-- The longest lexeme at the front of a text is found there with the token it denotes. -/
theorem Longest.first?_eq {word text : List Char} {outcome : Except Error Token}
    (longest : Longest word text) (denotes : Denotes word outcome)
    : Lexeme.first? text = some { chars := word, token := outcome } :=
  Lexeme.first?_eq_some_iff.mpr ⟨longest, denotes⟩

namespace Cursor

variable {cursor behind : Cursor} {token : Token}

/-- A token which the cursor reads is denoted by the longest lexeme ahead. -/
theorem exists_longest_of_next (read : cursor.next = (.ok (some token), behind))
    : ∃ word, Longest word cursor.ahead ∧ Denotes word (.ok token) := by
  unfold next at read
  split at read
  · rename_i lexeme found
    obtain ⟨longest, denotes⟩ := Lexeme.first?_eq_some_iff.mp found
    obtain ⟨valid, _⟩ := Prod.mk.inj read
    cases outcome : lexeme.token with
    | error error =>
        rw [outcome] at valid
        cases valid
    | ok head =>
        rw [outcome] at valid denotes
        cases valid
        exact ⟨lexeme.chars, longest, denotes⟩
  · split at read <;> cases read

end Cursor

end Formulary
