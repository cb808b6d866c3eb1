import Formulary.Cursor

/-! The tokens of a formula up to the end of its text or the first failure. -/

namespace Formulary

/-- Tokens to come, up to the end of the text or the first failure. -/
inductive TokenStream where
  | finish
  | fault (error : Error)
  | token (head : Token) (rest : TokenStream)

namespace TokenStream

/-- The tokens from the cursor on. -/
def ofCursor (cursor : Cursor) : TokenStream :=
  match _ : cursor.next with
  | (.error error, _) => .fault error
  | (.ok none, _) => .finish
  | (.ok (some head), behind) => .token head (ofCursor behind)
termination_by cursor.ahead.length
decreasing_by exact Cursor.length_ahead_lt_of_next ‹_›

/-- The tokens as a list, if none fails. -/
def toTokens : TokenStream → Except Error (List Token)
  | .finish => .ok []
  | .fault error => .error error
  | .token head rest => do return head :: (← rest.toTokens)

/-- The stream, unless it begins with a failure. -/
def settle : TokenStream → Except Error TokenStream
  | .fault error => .error error
  | stream => .ok stream

end TokenStream

/-- The tokens of a formula. -/
def tokenize (formula : String) : Except Error (List Token) :=
  (TokenStream.ofCursor (Cursor.ofFormula formula)).toTokens

end Formulary
