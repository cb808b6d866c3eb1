import Formulary.Lexeme
import Formulary.Text.Normal

/-! A cursor which moves over a text lexeme by lexeme. It goes on behind a lexeme without
a token, and stays in front of a character which begins no lexeme.
-/

namespace Formulary

/-- A place in a text: the characters before it, nearest first, and those from it on. -/
structure Cursor where
  behind : List Char
  ahead : List Char
deriving DecidableEq

namespace Cursor

/-- The cursor in front of the normal text of a formula. -/
def ofFormula (formula : String) : Cursor :=
  { behind := [], ahead := Text.normalize formula }

/-- The whole text. -/
def text (cursor : Cursor) : List Char :=
  cursor.behind.reverse ++ cursor.ahead

/-- How many characters are before the cursor. -/
def position (cursor : Cursor) : Nat :=
  cursor.behind.length

/-- The character just before the cursor. -/
def previous? (cursor : Cursor) : Option Char :=
  cursor.behind.head?

/-- The cursor so many characters further on. -/
def advance (cursor : Cursor) (count : Nat) : Cursor :=
  { behind := (cursor.ahead.take count).reverse ++ cursor.behind
    ahead := cursor.ahead.drop count }

/-- The next token and the cursor behind it, with no token at the end of the text. A
character which begins no lexeme is not passed; a lexeme without a token is.
-/
def next (cursor : Cursor) : Except Error (Option Token) × Cursor :=
  match Lexeme.first? cursor.ahead with
  | some lexeme => (lexeme.token.map some, cursor.advance lexeme.chars.length)
  | none =>
      match cursor.ahead with
      | [] => (.ok none, cursor)
      | found :: _ =>
          (.error (.unexpectedChar found cursor.position cursor.previous?), cursor)

/-- Moving on keeps the text. -/
@[simp]
theorem text_advance (cursor : Cursor) (count : Nat)
    : (cursor.advance count).text = cursor.text := by
  simp [text, advance, List.append_assoc]

/-- Reading a token shortens what is ahead. -/
theorem length_ahead_lt_of_next {cursor behind : Cursor} {token : Token}
    (read : cursor.next = (.ok (some token), behind))
    : behind.ahead.length < cursor.ahead.length := by
  unfold next at read
  split at read
  · rename_i lexeme found
    obtain ⟨_, rfl⟩ := Prod.mk.inj read
    have nonempty := List.length_pos_iff.mpr (Lexeme.chars_ne_nil_of_first? found)
    have : cursor.ahead ≠ [] := by
      intro empty
      simp [empty, Lexeme.first?] at found
    have := List.length_pos_iff.mpr this
    simp only [advance, List.length_drop]
    omega
  · split at read <;> simp at read

end Cursor

end Formulary
