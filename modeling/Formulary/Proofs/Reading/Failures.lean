import Formulary.Proofs.Lexing.LongestLexemes
import Formulary.Proofs.Reading.Decisions

/-! The stage at which a formula text fails. Either its tokens do not fit the grammar or a
limit, which is a failure of parsing, or they end in a failure, which is one of lexing.
-/

namespace Formulary

open Outcomes

namespace Lexeme

/-- What is wrong with a lexeme is found in lexing. -/
theorem stage_of_first? {text : List Char} {lexeme : Lexeme} {error : Error}
    (found : first? text = some lexeme) (failed : lexeme.token = .error error)
    : error.stage = .lexing := by
  have denotes := denotes_of_first? found
  rw [failed] at denotes
  generalize lexeme.chars = word at denotes
  cases denotes with
  | hugeVar | unknownWord | barePower => rfl

end Lexeme

namespace Cursor

/-- A step of the cursor fails in lexing only. -/
theorem stage_of_next {cursor behind : Cursor} {error : Error}
    (failed : cursor.next = (.error error, behind))
    : error.stage = .lexing := by
  unfold next at failed
  split at failed
  · rename_i lexeme found
    obtain ⟨failed, _⟩ := Prod.mk.inj failed
    cases token : lexeme.token with
    | error error' =>
        rw [token] at failed
        cases failed
        exact Lexeme.stage_of_first? found token
    | ok token' =>
        rw [token] at failed
        cases failed
  · split at failed <;> cases failed
    rfl

end Cursor

namespace TokenStream

/-- A stream of tokens ends in a failure of lexing, if in any, by induction on its run. -/
theorem stage_of_ofCursor {cursor : Cursor} {error : Error}
    (ends : (ofCursor cursor).fault? = some error)
    : error.stage = .lexing := by
  fun_induction ofCursor cursor with
  | case1 cursor error' behind failed =>
      cases ends
      exact Cursor.stage_of_next failed
  | case2 => cases ends
  | case3 cursor head behind _ ih => exact ih ends

end TokenStream

namespace Formula

/-- What refuses a stream is a failure of parsing, or the one which the stream ends in. -/
theorem Refusal.stage {stream : TokenStream} {error : Error} (refusal : Refusal stream error)
    : error.stage = .parsing ∨ stream.fault? = some error := by
  cases refusal with
  | fault ends => exact .inr ends
  | finish _ cause => rcases cause with rfl | rfl <;> exact .inl rfl
  | token _ _ _ _ _ cause =>
      rcases cause with rfl | ⟨⟨_, rfl⟩, _⟩ | ⟨rfl, _⟩ <;> exact .inl rfl

/-- A text which is no formula fails in parsing, or with the failure its tokens end in. -/
theorem stage_of_parse {text : String} {error : Error} (failed : parse text = .error error)
    : error.stage = .parsing ∨ error.stage = .lexing ∧ tokenize text = .error error := by
  rcases (refusal_of_ofStream failed).stage with parsing | ends
  · exact .inl parsing
  · exact .inr ⟨TokenStream.stage_of_ofCursor ends, TokenStream.toTokens_eq_error_iff.mpr ends⟩

/-- What is wrong with a formula is wrong with its text. -/
theorem isSyntactic_of_parse {text : String} {error : Error}
    (failed : parse text = .error error)
    : error.isSyntactic = true := by
  rcases stage_of_parse failed with parsing | ⟨lexing, _⟩
  · simp [Error.isSyntactic, parsing]
  · simp [Error.isSyntactic, lexing]

end Formula

end Formulary
