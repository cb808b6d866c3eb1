import Formulary.Proofs.Lexing.LongestLexemes

/-! Cutting a text into the longest lexemes from the left. The tokens of a formula are those
of the lexemes, and the first part of its text which has no token is the reason to refuse it.
-/

namespace Formulary

open TokenStream

/-- The words are cut off the text, each as the longest lexeme there, and denote the tokens.
The rest is left.
-/
inductive Cuts : List Char → List (List Char) → List Token → List Char → Prop where
  | done (rest : List Char) : Cuts rest [] [] rest
  | next {word after : List Char} {token : Token} {words : List (List Char)}
    {tokens : List Token} {rest : List Char} (longest : Longest word (word ++ after))
    (denotes : Denotes word (.ok token)) (more : Cuts after words tokens rest)
    : Cuts (word ++ after) (word :: words) (token :: tokens) rest

/-- What comes next behind the other characters is refused with the error: a lexeme which has
no token, or a character with which no lexeme begins.
-/
inductive Refused (before : List Char) : List Char → Error → Prop where
  | lexeme {word rest : List Char} {error : Error} (longest : Longest word rest)
    (denotes : Denotes word (.error error)) : Refused before rest error
  | char {c : Char} {rest : List Char} (noLetter : Unicode.isAlphabetic c = false)
    (noDigit : c.isDigit = false) (noMark : c ∉ markChars)
    : Refused before (c :: rest) (.unexpectedChar c before.length before.getLast?)

/-- Whether something is refused does not depend on what stands before it. -/
theorem Refused.exists_behind {before rest : List Char} {error : Error}
    (refused : Refused before rest error) (other : List Char)
    : ∃ error, Refused other rest error := by
  cases refused with
  | lexeme longest denotes => exact ⟨error, .lexeme longest denotes⟩
  | char noLetter noDigit noMark => exact ⟨_, .char noLetter noDigit noMark⟩

/-- What is refused is where the stream fails. -/
theorem Refused.ofCursor_eq {before rest : List Char} {error : Error}
    (refused : Refused before rest error)
    : ofCursor { behind := before.reverse, ahead := rest } = .fault error := by
  cases refused with
  | @lexeme word rest error longest denotes =>
      have found := longest.first?_eq denotes
      obtain ⟨after, rfl⟩ := longest.isPrefix
      exact @ofCursor_fault { chars := word, token := .error error } _ _ found rfl _
  | char noLetter noDigit noMark =>
      rw [ofCursor_unexpected (Lexeme.first?_cons_eq_none_iff.mpr ⟨noLetter, noDigit, noMark⟩)]
      simp

namespace Cuts

variable {text rest : List Char} {words : List (List Char)} {tokens : List Token}

/-- Nothing of the text is lost, and nothing is doubled. -/
theorem flatten_append (cuts : Cuts text words tokens rest) : words.flatten ++ rest = text := by
  induction cuts with
  | done rest => rfl
  | next longest denotes more ih => simp [ih]

/-- The stream has the tokens of the words in front of what is left, by induction on the
words.
-/
theorem ofCursor_eq (cuts : Cuts text words tokens rest) (behind : List Char)
    : ofCursor { behind := behind, ahead := text }
      = prepend tokens
          (ofCursor { behind := words.flatten.reverse ++ behind, ahead := rest }) := by
  induction cuts generalizing behind with
  | done rest => simp
  | @next word after token words tokens rest longest denotes more ih =>
      have found := longest.first?_eq denotes
      have first := @ofCursor_token { chars := word, token := .ok token } _ _ found rfl behind
      rw [first, ih]
      simp

end Cuts

/-- Every text can be cut up to its end or to something which is refused, by induction on its
length.
-/
theorem exists_cuts (text : List Char)
    : ∃ words tokens rest,
        Cuts text words tokens rest
        ∧ (rest = [] ∨ ∃ error, Refused words.flatten rest error) := by
  induction length : text.length using Nat.strong_induction_on generalizing text with
  | _ size ih =>
      cases found : Lexeme.first? text with
      | none =>
          refine ⟨[], [], text, .done text, ?_⟩
          cases text with
          | nil => exact .inl rfl
          | cons c rest =>
              obtain ⟨noLetter, noDigit, noMark⟩ := Lexeme.first?_cons_eq_none_iff.mp found
              exact .inr ⟨_, .char noLetter noDigit noMark⟩
      | some lexeme =>
          obtain ⟨longest, denotes⟩ := Lexeme.first?_eq_some_iff.mp found
          cases token : lexeme.token with
          | error error =>
              rw [token] at denotes
              exact ⟨[], [], text, .done text, .inr ⟨error, .lexeme longest denotes⟩⟩
          | ok head =>
              rw [token] at denotes
              obtain ⟨after, rfl⟩ := longest.isPrefix
              have shorter : after.length < size := by
                have := List.length_pos_iff.mpr (Lexeme.chars_ne_nil_of_first? found)
                rw [List.length_append] at length
                omega
              obtain ⟨words, tokens, rest, more, ends⟩ := ih _ shorter after rfl
              refine ⟨_, _, rest, .next longest denotes more, ends.imp_right ?_⟩
              rintro ⟨_, refused⟩
              exact refused.exists_behind _

/-- A formula is cut into the longest lexemes from the left. It has the tokens of the lexemes
exactly if they make up its whole normal text, and it is refused exactly for what is refused
first. Either way nothing of the text is lost or doubled.
-/
theorem tokenize_longest_lexemes (formula : String)
    : (∀ tokens,
        tokenize formula = .ok tokens
        ↔ ∃ words,
            words.flatten = Text.normalize formula
            ∧ Cuts (Text.normalize formula) words tokens [])
      ∧ ∀ error,
          tokenize formula = .error error
          ↔ ∃ words tokens rest,
              words.flatten ++ rest = Text.normalize formula
              ∧ Cuts (Text.normalize formula) words tokens rest
              ∧ Refused words.flatten rest error := by
  have streamOf {words tokens rest} (cuts : Cuts (Text.normalize formula) words tokens rest)
      : ofCursor (Cursor.ofFormula formula)
        = prepend tokens (ofCursor { behind := words.flatten.reverse, ahead := rest }) := by
    rw [Cursor.ofFormula, cuts.ofCursor_eq, List.append_nil]
  have whole {words tokens} (cuts : Cuts (Text.normalize formula) words tokens [])
      : tokenize formula = .ok tokens := by
    apply toTokens_eq_ok_iff.mpr
    rw [streamOf cuts, ofCursor_nil]
  have partly {words tokens rest error}
      (cuts : Cuts (Text.normalize formula) words tokens rest)
      (refused : Refused words.flatten rest error)
      : tokenize formula = .error error := by
    apply toTokens_eq_error_iff.mpr
    rw [streamOf cuts, refused.ofCursor_eq, fault?_prepend]
    rfl
  obtain ⟨words, tokens, rest, cuts, ends⟩ := exists_cuts (Text.normalize formula)
  refine ⟨fun tokens' => ⟨fun lexed => ?_, fun ⟨_, _, cuts⟩ => whole cuts⟩,
    fun error => ⟨fun failed => ?_, fun ⟨_, _, _, _, cuts, refused⟩ => partly cuts refused⟩⟩
  · rcases ends with rfl | ⟨error, refused⟩
    · rw [whole cuts] at lexed
      cases lexed
      exact ⟨words, by simpa using cuts.flatten_append, cuts⟩
    · rw [partly cuts refused] at lexed
      cases lexed
  · rcases ends with rfl | ⟨error', refused⟩
    · rw [whole cuts] at failed
      cases failed
    · rw [partly cuts refused] at failed
      cases failed
      exact ⟨words, tokens, rest, cuts.flatten_append, cuts, refused⟩

/-- The letter e goes with the digits before it, although a function could begin there. -/
example : tokenize "2 Exp(x)" = .error (.invalidNumeral "2e") := by
  cbv

end Formulary
