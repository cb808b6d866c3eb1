import Formulary.Compilation
import Formulary.Proofs.Lexing.FoldedCuts
import Formulary.Proofs.Reading.LazyReading

/-! Neither case nor blanks count in a formula. Formulas which differ in nothing else are read
as the same tree and compiled to the same evaluator, or both fail for the same reason. Only the
sigmas of a word which is not reserved may be reported differently.
-/

namespace Formulary

open Outcomes TokenStream

-----------------------------------------------------------------------------------------
-- Outcomes which are alike
-----------------------------------------------------------------------------------------

/-- Both runs have the same result, or they fail alike. -/
inductive Outcomes.Alike {α : Type} : Except Error α → Except Error α → Prop where
  | ok (value : α) : Alike (.ok value) (.ok value)
  | error {error error' : Error} (alike : error.Alike error')
    : Alike (.error error) (.error error')

namespace Outcomes.Alike

variable {α β : Type}

/-- Every outcome is like itself. -/
theorem refl (outcome : Except Error α) : Alike outcome outcome := by
  cases outcome with
  | ok value => exact .ok value
  | error error => exact .error (.same error)

/-- Steps which are alike can be followed by the same step. -/
theorem bind {first first' : Except Error α} (alike : Alike first first')
    (next : α → Except Error β)
    : Alike (first >>= next) (first' >>= next) := by
  cases alike with
  | ok value => exact refl (next value)
  | error alike => exact .error alike

end Outcomes.Alike

-----------------------------------------------------------------------------------------
-- Formulas which are alike
-----------------------------------------------------------------------------------------

namespace Formula

/-- Streams of the same tokens with failures at their ends which are alike, are refused alike:
for these failures, or for the tokens in front of them.
-/
theorem ofStream_alike_of_fault (tokens : List Token) {error error' : Error}
    (alike : error.Alike error')
    : Alike (ofStream (prepend tokens (.fault error)))
        (ofStream (prepend tokens (.fault error'))) := by
  have ends (error : Error) : (prepend tokens (.fault error)).fault? = some error :=
    fault?_prepend tokens (.fault error)
  have front (error error' : Error)
      : (prepend tokens (.fault error)).tokens <+: (prepend tokens (.fault error')).tokens := by
    rw [tokens_prepend, tokens_prepend]
    exact List.prefix_rfl
  rcases ofStream_of_fault (ends error) with last | ⟨early, _, refused, again⟩
  · rcases ofStream_of_fault (ends error') with last' | ⟨early, _, refused, again⟩
    · rw [last, last']
      exact .error alike
    · rw [refused, again _ (front error' error)]
      exact .refl _
  · rw [refused, again _ (front error error')]
    exact .refl _

/-- Formulas which differ in case and blanks only are read alike. -/
theorem parse_alike {text text' : String} (same : Text.caseless text = Text.caseless text')
    : Alike (parse text) (parse text') := by
  obtain ⟨tokens, outcome⟩ := exists_ofCursor_eq (Text.sameLetters_normalize same)
  unfold parse Cursor.ofFormula
  rcases outcome with ⟨stream, stream'⟩ | ⟨error, error', stream, stream', alike⟩
  · rw [stream, stream']
    exact .refl _
  · rw [stream, stream']
    exact ofStream_alike_of_fault tokens alike

/-- A formula which is a single word that is not reserved is refused for it. -/
theorem parse_of_isWord {text : String} {word : List Char}
    (normal : Text.normalize text = word) (whole : Lexeme.isWord word = true)
    (unknown : Token.ofWord? (String.ofList word) = none)
    : parse text = .error (.unknownWord (String.ofList word)) := by
  have found : Lexeme.first? ((Lexeme.ofWord word).chars ++ []) = some (Lexeme.ofWord word) := by
    rw [List.append_nil]
    exact Lexeme.first?_isWord whole
  have refused : (Lexeme.ofWord word).token = .error (.unknownWord (String.ofList word)) := by
    rw [Lexeme.ofWord, unknown]
  have stream := ofCursor_fault found refused []
  rw [List.append_nil] at stream
  rw [parse, Cursor.ofFormula, normal]
  exact congrArg ofStream stream

end Formula

/-- Formulas which become equal without blanks and with their Latin letters in lower case, are
read as the same formula and compiled to the same evaluator, whatever is requested. Otherwise
both are refused for the same reason, up to the sigmas in a word which is not reserved.
-/
theorem compile_of_caseless_eq {text text' : String}
    (same : Text.caseless text = Text.caseless text')
    : Alike (Formula.parse text) (Formula.parse text')
      ∧ ∀ request : CompileRequest, Alike (compile request text) (compile request text') := by
  have alike := Formula.parse_alike same
  refine ⟨alike, fun request => ?_⟩
  exact alike.bind (Formula.compile request)

/-- Blanks within names and numbers do not count either. A blank behind a sigma makes it final,
which shows only in the word that is reported.
-/
theorem compile_of_caseless_eq_sigma
    : (Text.caseless "R o u\tND(X 1)" = Text.caseless "round(x1)"
        ∧ Formula.parse "R o u\tND(X 1)"
          = .ok { expr := .call .round (.var 1), vars := .singleton 1 })
      ∧ Text.caseless "ΑΣ Α" = Text.caseless "ΑΣΑ"
        ∧ Formula.parse "ΑΣ Α" = .error (.unknownWord "αςα")
        ∧ Formula.parse "ΑΣΑ" = .error (.unknownWord "ασα")
        ∧ Error.Alike (.unknownWord "αςα") (.unknownWord "ασα") := by
  have same : Text.caseless "R o u\tND(X 1)" = Text.caseless "round(x1)" := by
    decide +kernel
  have read
      : Formula.parse "round(x1)"
        = .ok { expr := .call .round (.var 1), vars := .singleton 1 } := by
    cbv
  have same' : Text.caseless "ΑΣ Α" = Text.caseless "ΑΣΑ" := by
    decide +kernel
  have final : Formula.parse "ΑΣ Α" = .error (.unknownWord "αςα") :=
    Formula.parse_of_isWord (by decide +kernel) (by decide +kernel) (by decide +kernel)
  have within : Formula.parse "ΑΣΑ" = .error (.unknownWord "ασα") :=
    Formula.parse_of_isWord (by decide +kernel) (by decide +kernel) (by decide +kernel)
  refine ⟨⟨same, ?_⟩, same', final, within, ?_⟩
  · have alike := (compile_of_caseless_eq same).1
    rw [read] at alike
    generalize Formula.parse "R o u\tND(X 1)" = outcome at alike ⊢
    cases alike
    rfl
  · have alike := (compile_of_caseless_eq same').1
    rw [final, within] at alike
    cases alike with
    | error alike => exact alike

end Formulary
