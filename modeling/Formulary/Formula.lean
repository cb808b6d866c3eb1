import Formulary.Reader

/-! Formulas which have been read. -/

namespace Formulary

/-- A formula: its tree and its variables. -/
structure Formula where
  expr : Expr
  vars : VarSet
deriving DecidableEq

namespace Formula

/-- The formula whose tokens make up the whole stream. -/
def ofStream (stream : TokenStream) : Except Error Formula := do
  let (tree, rest) ← Reader.expression (Reader.factor maxNesting) (← stream.settle)
  match rest with
  | .finish => return { expr := tree.expr, vars := tree.vars }
  | .token found _ => throw (.trailingToken found)
  | .fault error => throw error

/-- The formula with the given text. -/
def parse (text : String) : Except Error Formula :=
  ofStream (TokenStream.ofCursor (Cursor.ofFormula text))

end Formula

end Formulary
