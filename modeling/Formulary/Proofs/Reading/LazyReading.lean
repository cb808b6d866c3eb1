import Formulary.Proofs.Reading.Exactness
import Formulary.Proofs.Reading.Failures

/-! Reading a formula while its text is cut into tokens. It comes to the same as cutting the
text first, except that a failure of reading may be met before the text is cut to its end.
-/

namespace Formulary

open TokenStream

/-- The cursor after so many steps, whatever they answer. -/
def Cursor.after (cursor : Cursor) : Nat → Cursor
  | 0 => cursor
  | count + 1 => cursor.next.2.after count

/-- The tokens of a formula in front of the end of its text or the first failure. -/
def tokensBeforeFault (formula : String) : List Token :=
  (TokenStream.ofCursor (Cursor.ofFormula formula)).tokens

namespace TokenStream

/-- Behind the first token the stream is that of the cursor one step on. -/
theorem ofCursor_next {cursor : Cursor} {head : Token} {rest : TokenStream}
    (front : ofCursor cursor = .token head rest)
    : ofCursor cursor.next.2 = rest := by
  rw [ofCursor] at front
  split at front
  · cases front
  · cases front
  · rename_i head' behind read
    cases front
    rw [read]

/-- After some steps of the cursor the tokens are those which are left, by induction on the
number of steps.
-/
theorem ofCursor_after {cursor : Cursor} {tokens : List Token} {rest : TokenStream} {count : Nat}
    (lexed : ofCursor cursor = prepend tokens rest) (within : count ≤ tokens.length)
    : ofCursor (cursor.after count) = prepend (tokens.drop count) rest := by
  induction count generalizing cursor tokens with
  | zero => exact lexed
  | succ count ih =>
      cases tokens with
      | nil => cases within
      | cons head tokens => exact ih (ofCursor_next lexed) (Nat.le_of_succ_le_succ within)

end TokenStream

namespace Formula

/-- A formula in a stream leaves no failure at its end. -/
theorem fault?_of_ofStream {stream : TokenStream} {formula : Formula}
    (read : ofStream stream = .ok formula)
    : stream.fault? = none := by
  obtain ⟨tokens, _, rfl, _⟩ := derives_of_ofStream read
  exact fault?_prepend tokens .finish

/-- A stream which ends in a failure is refused for that failure, or for its tokens alone.
-/
theorem ofStream_of_fault {stream : TokenStream} {fault : Error}
    (ends : stream.fault? = some fault)
    : ofStream stream = .error fault
      ∨ ∃ error,
          error.stage = .parsing
          ∧ ofStream stream = .error error
          ∧ ∀ other : TokenStream,
              stream.tokens <+: other.tokens → ofStream other = .error error := by
  cases read : ofStream stream with
  | ok formula =>
      rw [fault?_of_ofStream read] at ends
      cases ends
  | error error =>
      have refusal := refusal_of_ofStream read
      rcases refusal.stage with parsing | same
      · cases refusal with
        | fault same =>
            rw [ends] at same
            cases same
            exact .inl rfl
        | finish sound =>
            rw [ends] at sound
            cases sound
        | token tokens found rest same decided =>
            refine .inr ⟨error, parsing, rfl, fun other front => ?_⟩
            -- The other stream has the deciding token too.
            obtain ⟨after, rfl⟩ := exists_eq_prepend front
            rw [same, tokens_prepend, prepend_append]
            exact decided _
      · rw [ends] at same
        cases same
        exact .inl rfl

/-- Reading a text while it is cut agrees with cutting it first. What is read can be cut,
and a failure of lexing is that of cutting. After some tokens the rest is read like any
text with the tokens which are left. Where the text cannot be cut, reading gives the same
failure, or one which the tokens in front of it give in any text which begins with them.
-/
theorem parse_while_lexing (text : String)
    : (∀ formula, parse text = .ok formula → ∃ tokens, tokenize text = .ok tokens)
      ∧ (∀ error,
          parse text = .error error
          → error.stage = .lexing
          → tokenize text = .error error)
      ∧ (∀ tokens,
          tokenize text = .ok tokens
          → ∀ count ≤ tokens.length,
              ∀ other,
                tokenize other = .ok (tokens.drop count)
                → ofStream (.ofCursor ((Cursor.ofFormula text).after count)) = parse other)
      ∧ ∀ fault,
          tokenize text = .error fault
          → parse text = .error fault
            ∨ ∃ error,
                error.stage = .parsing
                ∧ parse text = .error error
                ∧ ∀ other,
                    tokensBeforeFault text <+: tokensBeforeFault other
                    → parse other = .error error := by
  refine ⟨?_, ?_, ?_, ?_⟩
  · intro formula read
    obtain ⟨tokens, _, lexed, _⟩ := parse_eq_ok_iff.mp read
    exact ⟨tokens, lexed⟩
  · intro error failed lexing
    rcases stage_of_parse failed with parsing | ⟨_, same⟩
    · rw [lexing] at parsing
      cases parsing
    · exact same
  · intro tokens lexed count within other lexedOther
    rw [parse, toTokens_eq_ok_iff.mp lexedOther,
      ofCursor_after (toTokens_eq_ok_iff.mp lexed) within]
  · intro fault failed
    have ends := toTokens_eq_error_iff.mp failed
    rcases ofStream_of_fault ends with same | ⟨error, parsing, read, again⟩
    · exact .inl same
    · exact .inr ⟨error, parsing, read, fun other => again _⟩

/-- A parenthesis too many is met before a character without meaning, and again where
other tokens follow it.
-/
theorem parse_while_lexing_overtaken
    : tokenize "2)%" = .error (.unexpectedChar '%' 2 (some ')'))
      ∧ tokensBeforeFault "2)%" <+: tokensBeforeFault "2)*x"
      ∧ parse "2)*x" = .error (.trailingToken .rightParen)
      ∧ tokenize "1+(2)"
        = .ok [.number (.integer 1), .operator .add, .leftParen, .number (.integer 2),
            .rightParen]
      ∧ ofStream (.ofCursor ((Cursor.ofFormula "1+(2)").after 2)) = parse "(2)" := by
  have failed : tokenize "2)%" = .error (.unexpectedChar '%' 2 (some ')')) := by
    cbv
  have front : tokensBeforeFault "2)%" <+: tokensBeforeFault "2)*x" :=
    ⟨[.operator .multiply, .var 0], by cbv⟩
  have overtaken : parse "2)%" = .error (.trailingToken .rightParen) := by
    cbv
  have whole
      : tokenize "1+(2)"
        = .ok [.number (.integer 1), .operator .add, .leftParen, .number (.integer 2),
            .rightParen] := by
    cbv
  have left
      : tokenize "(2)" = .ok [.leftParen, .number (.integer 2), .rightParen] := by
    cbv
  refine ⟨failed, front, ?_, whole,
    (parse_while_lexing "1+(2)").2.2.1 _ whole 2 (by decide) "(2)" left⟩
  rcases (parse_while_lexing "2)%").2.2.2 _ failed with same | ⟨error, _, read, again⟩
  · rw [overtaken] at same
    cases same
  · rw [overtaken] at read
    cases read
    exact again _ front

end Formula

end Formulary
