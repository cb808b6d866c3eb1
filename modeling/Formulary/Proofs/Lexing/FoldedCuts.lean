import Formulary.Proofs.Lexing.CaseFolding
import Formulary.Proofs.Lexing.GreedyCuts

/-! Cutting texts with the same letters. Every lexeme which has a token is written in ASCII,
where no sigma is, so both texts are cut alike. They can differ in a word which is not
reserved, and there both are refused.
-/

namespace Formulary

open Text

/-- The errors are the same, or both are about a word which is not reserved, and the words
have the same letters.
-/
inductive Error.Alike : Error → Error → Prop where
  | same (error : Error) : Alike error error
  | unknownWord {word word' : String} (letters : SameLetters word.toList word'.toList)
    : Alike (.unknownWord word) (.unknownWord word')

-----------------------------------------------------------------------------------------
-- Lexemes in ASCII
-----------------------------------------------------------------------------------------

/-- Digits are from ASCII. -/
theorem isAscii_of_isDigit {digits : List Char} (all : ∀ c ∈ digits, c.isDigit = true)
    : isAscii digits = true :=
  List.all_eq_true.mpr fun c member =>
    eq_of_isDigit (fun c => c.toNat < 0x80) true (by decide) (all c member)

/-- The letter of a variable and its digits are from ASCII. -/
theorem isAscii_var {digits : List Char} (all : ∀ c ∈ digits, c.isDigit = true)
    : isAscii ('x' :: digits) = true := by
  rw [isAscii_cons, isAscii_of_isDigit all]
  rfl

/-- A mark is from ASCII. -/
theorem isAscii_mark {c : Char} (member : c ∈ markChars) : isAscii [c] = true := by
  have all : markChars.all fun c => isAscii [c] := by decide
  exact List.all_eq_true.mp all c member

/-- The name of a function is written in ASCII. -/
theorem isAscii_function (name : ElementaryFunction) : isAscii name.name.toList = true := by
  cases name <;> decide +kernel

/-- The name of a constant is written in ASCII. -/
theorem isAscii_constant (name : NamedConstant) : isAscii name.name.toList = true := by
  cases name
  decide +kernel

/-- A numeral is written in ASCII. -/
theorem Numeral.Written.isAscii_chars {numeral : Numeral} (written : numeral.Written)
    : isAscii numeral.chars = true := by
  have fraction : isAscii (numeral.fraction.elim [] Fraction.chars) = true := by
    cases found : numeral.fraction with
    | none => rfl
    | some part =>
        obtain ⟨marked, digits⟩ := written.fraction part found
        have all : ['.', ','].all fun c => c.toNat < 0x80 := by decide
        have low := List.all_eq_true.mp all part.mark marked
        rw [Option.elim, Fraction.chars, isAscii_cons, low, isAscii_of_isDigit digits]
        rfl
  have power : isAscii (numeral.power.elim [] PowerPart.chars) = true := by
    cases found : numeral.power with
    | none => rfl
    | some part =>
        obtain ⟨signs, digits⟩ := written.power part found
        have sign : isAscii part.sign.toList = true := by
          cases signed : part.sign with
          | none => rfl
          | some sign =>
              rcases of_decide_eq_true (signs sign signed) with rfl | rfl <;> rfl
        rw [Option.elim, PowerPart.chars, isAscii_append, isAscii_cons, sign,
          isAscii_of_isDigit digits]
        rfl
  rw [chars, isAscii_append, isAscii_append, isAscii_of_isDigit written.whole.2, fraction, power]
  rfl

-----------------------------------------------------------------------------------------
-- Lexemes with the same letters
-----------------------------------------------------------------------------------------

section

variable {word word' : List Char}

/-- Both sigmas are letters, so a word stays a word. -/
theorem isWord_of_sameLetters (whole : Lexeme.isWord word = true)
    (same : SameLetters word word')
    : Lexeme.isWord word' = true := by
  cases word with
  | nil => cases whole
  | cons first rest =>
      obtain ⟨first', rest', rfl, sameFirst, sameRest⟩ := same.exists_cons
      simp only [Lexeme.isWord, Bool.and_eq_true] at whole ⊢
      obtain ⟨⟨letter, notX⟩, letters⟩ := whole
      refine ⟨⟨?_, ?_⟩, ?_⟩
      · rw [← apply_eq_of_medial_eq sameFirst Unicode.isAlphabetic (by decide +kernel), letter]
      · rw [← apply_eq_of_medial_eq sameFirst (· != 'x') rfl, notX]
      · rw [← sameRest.all_eq Unicode.isAlphanumeric (by decide +kernel), letters]

/-- What has the shape of a lexeme keeps it. -/
theorem IsLexeme.of_sameLetters (isLexeme : IsLexeme word) (same : SameLetters word word')
    : IsLexeme word' := by
  cases isLexeme with
  | var all =>
      rw [same.eq_of_isAscii (isAscii_var all)]
      exact .var all
  | word whole => exact .word (isWord_of_sameLetters whole same)
  | numeral written =>
      rw [same.eq_of_isAscii written.isAscii_chars]
      exact .numeral written
  | mark member =>
      rw [same.eq_of_isAscii (isAscii_mark member)]
      exact .mark member

/-- What is not in ASCII is no reserved word. -/
theorem Denotes.isAscii_or {outcome : Except Error Token} (denotes : Denotes word outcome)
    : isAscii word = true
      ∨ Lexeme.isWord word = true
        ∧ (∀ name : ElementaryFunction, name.name.toList ≠ word)
        ∧ (∀ name : NamedConstant, name.name.toList ≠ word)
        ∧ outcome = .error (.unknownWord (String.ofList word)) := by
  cases denotes with
  | var all | hugeVar all => exact .inl (isAscii_var all)
  | function name => exact .inl (isAscii_function name)
  | constant name => exact .inl (isAscii_constant name)
  | unknownWord whole noFunction noConstant =>
      exact .inr ⟨whole, noFunction, noConstant, rfl⟩
  | integer written | real written | barePower written => exact .inl written.isAscii_chars
  | operator op =>
      exact .inl (isAscii_mark (Lexeme.mem_markChars_of_ofMark? (Token.ofMark?_symbol op)))
  | leftParen | rightParen => exact .inl rfl

/-- What has a token is the same in every text with the same letters. -/
theorem Denotes.eq_of_sameLetters {token : Token} (denotes : Denotes word (.ok token))
    (same : SameLetters word word')
    : word' = word := by
  rcases denotes.isAscii_or with ascii | ⟨_, _, _, failed⟩
  · exact same.eq_of_isAscii ascii
  · cases failed

/-- What is refused as a lexeme is refused alike in every text with the same letters. -/
theorem Denotes.exists_alike {error : Error} (denotes : Denotes word (.error error))
    (same : SameLetters word word')
    : ∃ error', Denotes word' (.error error') ∧ error.Alike error' := by
  rcases denotes.isAscii_or with ascii | ⟨whole, noFunction, noConstant, failed⟩
  · rw [same.eq_of_isAscii ascii]
    exact ⟨error, denotes, .same error⟩
  · cases failed
    -- A reserved word has its letters to itself, so the other word is none either.
    refine ⟨_, .unknownWord (isWord_of_sameLetters whole same) ?_ ?_, .unknownWord ?_⟩
    · intro name reserved
      have ascii : isAscii word' = true := by rw [← reserved, isAscii_function]
      exact noFunction name (by rw [reserved, same.symm.eq_of_isAscii ascii])
    · intro name reserved
      have ascii : isAscii word' = true := by rw [← reserved, isAscii_constant]
      exact noConstant name (by rw [reserved, same.symm.eq_of_isAscii ascii])
    · simpa using same

end

-----------------------------------------------------------------------------------------
-- Cuts with the same letters
-----------------------------------------------------------------------------------------

/-- The longest lexeme reaches equally far in a text with the same letters. -/
theorem Longest.exists_sameLetters {word text text' : List Char} (longest : Longest word text)
    (same : SameLetters text text')
    : ∃ word', Longest word' text' ∧ SameLetters word word' := by
  obtain ⟨after, rfl⟩ := longest.isPrefix
  obtain ⟨word', after', rfl, sameWord, sameAfter⟩ := same.exists_append
  refine ⟨word', ⟨longest.isLexeme.of_sameLetters sameWord, List.prefix_append _ _, ?_⟩, sameWord⟩
  rintro other isLexeme ⟨behind, split⟩
  -- A longer lexeme there would stand here too.
  rw [← split] at same
  obtain ⟨other', behind', split', sameOther, _⟩ := same.symm.exists_append
  have front : other' <+: word ++ after := ⟨behind', split'.symm⟩
  have within := longest.longest other' (isLexeme.of_sameLetters sameOther) front
  rwa [← sameOther.length_eq, sameWord.length_eq] at within

/-- A text is cut into the same words as one with the same letters, by induction on the
words.
-/
theorem Cuts.exists_sameLetters {text text' rest : List Char} {words : List (List Char)}
    {tokens : List Token} (cuts : Cuts text words tokens rest) (same : SameLetters text text')
    : ∃ rest', Cuts text' words tokens rest' ∧ SameLetters rest rest' := by
  induction cuts generalizing text' with
  | done rest => exact ⟨text', .done text', same⟩
  | @next word after token words tokens rest longest denotes more ih =>
      obtain ⟨word', longest', sameWord⟩ := longest.exists_sameLetters same
      have spelled := denotes.eq_of_sameLetters sameWord
      rw [spelled] at longest'
      obtain ⟨after', rfl⟩ := longest'.isPrefix
      obtain ⟨rest', more', sameRest⟩ := ih same.of_append_left
      exact ⟨rest', .next longest' denotes more', sameRest⟩

/-- What is refused is refused alike in every text with the same letters. -/
theorem Refused.exists_alike {before rest rest' : List Char} {error : Error}
    (refused : Refused before rest error) (same : SameLetters rest rest')
    : ∃ error', Refused before rest' error' ∧ error.Alike error' := by
  cases refused with
  | lexeme longest denotes =>
      obtain ⟨word', longest', sameWord⟩ := longest.exists_sameLetters same
      obtain ⟨error', denotes', alike⟩ := denotes.exists_alike sameWord
      exact ⟨error', .lexeme longest' denotes', alike⟩
  | @char c rest noLetter noDigit noMark =>
      obtain ⟨c', rest', rfl, sameLetter, _⟩ := same.exists_cons
      have plain : isSigma c = false :=
        not_isSigma_of_apply Unicode.isAlphabetic (by decide +kernel) noLetter
      rw [eq_of_medial_eq sameLetter plain]
      exact ⟨_, .char noLetter noDigit noMark, .same _⟩

/-- Texts with the same letters have the same tokens up to their end or to what is refused in
both, and alike.
-/
theorem exists_ofCursor_eq {text text' : List Char} (same : SameLetters text text')
    : ∃ tokens,
        let ends rest :=
          TokenStream.ofCursor { behind := [], ahead := text } = .prepend tokens rest
        let ends' rest :=
          TokenStream.ofCursor { behind := [], ahead := text' } = .prepend tokens rest
        ends .finish ∧ ends' .finish
        ∨ ∃ error error', ends (.fault error) ∧ ends' (.fault error') ∧ error.Alike error' := by
  obtain ⟨words, tokens, rest, cuts, outcome⟩ := exists_cuts text
  obtain ⟨rest', cuts', sameRest⟩ := cuts.exists_sameLetters same
  have stream := cuts.ofCursor_eq []
  have stream' := cuts'.ofCursor_eq []
  rw [List.append_nil] at stream stream'
  refine ⟨tokens, ?_⟩
  rcases outcome with rfl | ⟨error, refused⟩
  · have empty : rest' = [] := List.map_eq_nil_iff.mp sameRest.symm
    rw [empty] at stream'
    rw [TokenStream.ofCursor_nil] at stream stream'
    exact .inl ⟨stream, stream'⟩
  · obtain ⟨error', refused', alike⟩ := refused.exists_alike sameRest
    rw [refused.ofCursor_eq] at stream
    rw [refused'.ofCursor_eq] at stream'
    exact .inr ⟨error, error', stream, stream', alike⟩

end Formulary
