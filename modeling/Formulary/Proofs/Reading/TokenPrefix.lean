import Formulary.Proofs.Outcomes
import Formulary.TokenStream

/-! Streams which begin with known tokens. A stream is its tokens in front of the end of the
text or of a failure.
-/

namespace Formulary.TokenStream

open Outcomes

/-- The stream with the tokens in front of it. -/
def prepend (tokens : List Token) (rest : TokenStream) : TokenStream :=
  tokens.foldr .token rest

/-- Without tokens nothing is put in front. -/
@[simp]
theorem prepend_nil (rest : TokenStream) : prepend [] rest = rest :=
  rfl

/-- The first token comes first. -/
@[simp]
theorem prepend_cons (head : Token) (tokens : List Token) (rest : TokenStream)
    : prepend (head :: tokens) rest = .token head (prepend tokens rest) :=
  rfl

/-- Tokens are put in front one list after the other. -/
theorem prepend_append (before after : List Token) (rest : TokenStream)
    : prepend (before ++ after) rest = prepend before (prepend after rest) :=
  List.foldr_append

/-- A stream which begins with a token has no failure in front. -/
@[simp]
theorem settle_token (head : Token) (rest : TokenStream)
    : (token head rest).settle = .ok (token head rest) :=
  rfl

/-- The end of the text is no failure. -/
@[simp]
theorem settle_finish : finish.settle = .ok finish :=
  rfl

/-- A failure in front is given back. -/
@[simp]
theorem settle_fault (error : Error) : (fault error).settle = .error error :=
  rfl

/-- A stream which passes is passed on as it is, and once passed it passes again. -/
theorem settle_eq_ok {stream settled : TokenStream} (passed : stream.settle = .ok settled)
    : settled = stream ∧ settled.settle = .ok settled := by
  cases stream with
  | fault error => simp at passed
  | finish | token head rest =>
      cases passed
      exact ⟨rfl, rfl⟩

/-- Tokens in front of a stream without a failure in front hide nothing. -/
theorem settle_prepend {tokens : List Token} {rest : TokenStream}
    (settled : rest.settle = .ok rest)
    : (prepend tokens rest).settle = .ok (prepend tokens rest) := by
  cases tokens with
  | nil => exact settled
  | cons head tokens => rfl

/-- The tokens in front of the end or the failure. -/
def tokens : TokenStream → List Token
  | finish | fault _ => []
  | token head rest => head :: rest.tokens

/-- The failure which the stream ends in, if it does. -/
def fault? : TokenStream → Option Error
  | finish => none
  | fault error => some error
  | token _ rest => rest.fault?

/-- At the end of the text there are no tokens. -/
@[simp]
theorem tokens_finish : finish.tokens = [] :=
  rfl

/-- The end of the text is no failure of the stream. -/
@[simp]
theorem fault?_finish : finish.fault? = none :=
  rfl

/-- The token in front is the first one. -/
@[simp]
theorem tokens_token (head : Token) (rest : TokenStream)
    : (token head rest).tokens = head :: rest.tokens :=
  rfl

/-- The token in front does not change how the stream ends. -/
@[simp]
theorem fault?_token (head : Token) (rest : TokenStream)
    : (token head rest).fault? = rest.fault? :=
  rfl

/-- Tokens in front of a stream come before its own. -/
@[simp]
theorem tokens_prepend (before : List Token) (rest : TokenStream)
    : (prepend before rest).tokens = before ++ rest.tokens := by
  induction before with
  | nil => rfl
  | cons head before ih => exact congrArg (head :: ·) ih

/-- Tokens in front of a stream do not change how it ends. -/
@[simp]
theorem fault?_prepend (before : List Token) (rest : TokenStream)
    : (prepend before rest).fault? = rest.fault? := by
  induction before with
  | nil => rfl
  | cons head before ih => exact ih

/-- A stream is its tokens in front of the end or the failure. -/
theorem eq_prepend_tokens (stream : TokenStream)
    : stream = prepend stream.tokens (stream.fault?.elim finish fault) := by
  induction stream with
  | finish | fault error => rfl
  | token head rest ih => exact congrArg (token head) ih

/-- A stream whose first tokens are known begins with them. -/
theorem exists_eq_prepend {before : List Token} {stream : TokenStream}
    (front : before <+: stream.tokens)
    : ∃ rest, stream = prepend before rest := by
  obtain ⟨after, same⟩ := front
  refine ⟨prepend after (stream.fault?.elim finish fault), ?_⟩
  rw [← prepend_append, same]
  exact eq_prepend_tokens stream

/-- A stream which does not end in a failure does not begin with one. -/
theorem settle_of_fault? {stream : TokenStream} (sound : stream.fault? = none)
    : stream.settle = .ok stream := by
  cases stream with
  | fault error => cases sound
  | finish | token head rest => rfl

/-- The failure in front of a stream is the one which it ends in. -/
theorem fault?_of_settle {stream : TokenStream} {error : Error}
    (failed : stream.settle = .error error)
    : stream.fault? = some error := by
  cases stream with
  | fault error' =>
      cases failed
      rfl
  | finish | token head rest => cases failed

/-- The tokens of a stream are all there is to it, if none fails. -/
theorem toTokens_eq_ok_iff {stream : TokenStream} {tokens : List Token}
    : stream.toTokens = .ok tokens ↔ stream = prepend tokens .finish := by
  induction stream generalizing tokens with
  | finish => cases tokens <;> simp [toTokens, eq_comm]
  | fault error => cases tokens <;> simp [toTokens]
  | token head rest ih =>
      cases tokens with
      | nil =>
          cases read : rest.toTokens
            <;> simp [toTokens, read, bind, Except.bind, pure, Except.pure]
      | cons first tokens =>
          rw [prepend_cons, token.injEq, ← ih]
          cases read : rest.toTokens
            <;> simp [toTokens, read, bind, Except.bind, pure, Except.pure]

/-- The tokens of a stream cannot be listed exactly if it ends in a failure. -/
theorem toTokens_eq_error_iff {stream : TokenStream} {error : Error}
    : stream.toTokens = .error error ↔ stream.fault? = some error := by
  induction stream with
  | finish | fault error' => simp [toTokens, fault?]
  | token head rest ih =>
      rw [toTokens, bind_eq_error_iff, ih]
      simp [fault?]

end Formulary.TokenStream
