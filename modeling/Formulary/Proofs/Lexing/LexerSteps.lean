import Formulary.Cursor
import Formulary.Lexer
import Formulary.Proofs.Decimal.ReadNumerals
import Formulary.Proofs.Lexing.LongestNumerals

/-! A lexer and a cursor in the same place of a text. Whatever the lexer scans, it comes to rest
between two characters, so that no slice of its text fails, and there the cursor is as well.
-/

namespace Formulary

-----------------------------------------------------------------------------------------
-- Bytes between characters
-----------------------------------------------------------------------------------------

namespace Lexer

/-- The byte behind the characters. -/
def byteAfter (chars : List Char) : String.Pos.Raw :=
  (String.ofList chars).rawEndPos

/-- Characters which are added add their bytes. -/
theorem byteIdx_byteAfter_append (before part : List Char)
    : (byteAfter (before ++ part)).byteIdx
      = (byteAfter before).byteIdx + (String.ofList part).utf8ByteSize := by
  rw [byteAfter, String.ofList_append]
  exact String.utf8ByteSize_append

theorem byteAfter_concat (chars : List Char) (c : Char)
    : byteAfter (chars ++ [c]) = byteAfter chars + c := by
  rw [String.Pos.Raw.ext_iff, byteIdx_byteAfter_append]
  exact congrArg _ String.utf8ByteSize_singleton

theorem byteAfter_le_append (before part : List Char)
    : byteAfter before ≤ byteAfter (before ++ part) := by
  rw [String.Pos.Raw.le_iff, byteIdx_byteAfter_append]
  exact Nat.le_add_right _ _

/-- Every character has some bytes. -/
theorem byteAfter_lt_append (before : List Char) {part : List Char} (nonempty : part ≠ [])
    : byteAfter before < byteAfter (before ++ part) := by
  have some : (String.ofList part).utf8ByteSize ≠ 0 := by
    rw [ne_eq, String.utf8ByteSize_eq_zero_iff]
    simpa using nonempty
  rw [String.Pos.Raw.lt_iff, byteIdx_byteAfter_append]
  exact Nat.lt_add_of_pos_right (Nat.pos_of_ne_zero some)

theorem isValid_byteAfter (before after : List Char)
    : (byteAfter before).IsValid (String.ofList (before ++ after)) := by
  rw [String.ofList_append]
  exact String.Pos.Raw.isValid_rawEndPos.append_right _

/-- A part of a text is the slice between the bytes at its two ends. -/
theorem slice_append (before part after : List Char)
    : slice (String.ofList (before ++ part ++ after)) (byteAfter before)
        (byteAfter (before ++ part))
      = some (String.ofList part) := by
  have start := isValid_byteAfter before (part ++ after)
  rw [← List.append_assoc] at start
  have stop := isValid_byteAfter (before ++ part) after
  rw [slice, dif_pos ⟨start, stop, byteAfter_le_append before part⟩, Option.some_inj]
  have front
      : ((String.ofList (before ++ part ++ after)).pos (byteAfter before) start).Splits
          (String.ofList before) (String.ofList part ++ String.ofList after) :=
    ⟨by simp, by simp [byteAfter]⟩
  have back
      : ((String.ofList (before ++ part ++ after)).pos (byteAfter (before ++ part)) stop).Splits
          (String.ofList before ++ String.ofList part) (String.ofList after) :=
    ⟨by simp [String.append_assoc], by simp [byteAfter]⟩
  obtain ⟨_, same⟩ := String.copy_slice_eq_iff_splits.mpr ⟨_, _, front, back⟩
  exact same

end Lexer

-----------------------------------------------------------------------------------------
-- Cursors as lexers
-----------------------------------------------------------------------------------------

namespace Cursor

/-- The byte before which the cursor is. -/
def offset (cursor : Cursor) : String.Pos.Raw :=
  Lexer.byteAfter cursor.behind.reverse

/-- The lexer in the place of the cursor. -/
def lexer (cursor : Cursor) : Lexer :=
  { text := String.ofList cursor.text, pos := cursor.offset, previous := cursor.previous? }

@[simp]
theorem advance_zero (cursor : Cursor) : cursor.advance 0 = cursor :=
  rfl

theorem advance_succ (behind : List Char) (c : Char) (rest : List Char) (count : Nat)
    : advance ⟨behind, c :: rest⟩ (count + 1) = advance ⟨c :: behind, rest⟩ count := by
  simp [advance]

/-- Behind what has been taken the rest is ahead. -/
theorem ahead_advance_of_append {cursor : Cursor} {taken rest : List Char}
    (whole : taken ++ rest = cursor.ahead)
    : (cursor.advance taken.length).ahead = rest := by
  simp [advance, ← whole]

theorem advance_length_append (cursor : Cursor) (first more : List Char)
    : cursor.advance (first ++ more).length
      = (cursor.advance first.length).advance more.length := by
  rw [List.length_append]
  simp [advance, List.take_add, List.append_assoc]

/-- What stands ahead is the slice of the text from its one end to the other. -/
theorem slice_of_prefix {cursor : Cursor} {word : List Char} (front : word <+: cursor.ahead)
    : Lexer.slice (cursor.advance word.length).lexer.text cursor.lexer.pos
        (cursor.advance word.length).lexer.pos
      = some (String.ofList word) := by
  obtain ⟨rest, whole⟩ := front
  have split
      : (cursor.advance word.length).text = cursor.behind.reverse ++ word ++ rest := by
    simp [text, advance, ← whole]
  have stop
      : (cursor.advance word.length).offset
        = Lexer.byteAfter (cursor.behind.reverse ++ word) := by
    simp [offset, advance, ← whole]
  simp only [lexer, split, stop]
  exact Lexer.slice_append _ _ _

/-- What has been passed is the slice of the text up to the place of the cursor. -/
theorem slice_behind (cursor : Cursor)
    : Lexer.slice cursor.lexer.text 0 cursor.lexer.pos
      = some (String.ofList cursor.behind.reverse) :=
  Lexer.slice_append [] cursor.behind.reverse cursor.ahead

end Cursor

-----------------------------------------------------------------------------------------
-- Single characters
-----------------------------------------------------------------------------------------

namespace Lexer

variable (cursor : Cursor)

/-- The lexer sees the character ahead. -/
theorem peek_lexer : cursor.lexer.peek = some cursor.ahead.head? := by
  have whole := cursor.slice_of_prefix List.prefix_rfl
  have finish
      : (cursor.advance cursor.ahead.length).lexer.pos = cursor.lexer.text.rawEndPos := by
    simp [Cursor.lexer, Cursor.offset, Cursor.advance, byteAfter, Cursor.text]
  have same : (cursor.advance cursor.ahead.length).lexer.text = cursor.lexer.text := by
    simp [Cursor.lexer]
  rw [finish, same] at whole
  simp [peek, whole]

/-- The lexer passes one character and keeps it. -/
theorem advance_lexer (behind : List Char) (c : Char) (rest : List Char)
    : (Cursor.mk behind (c :: rest)).lexer.advance = some (Cursor.mk (c :: behind) rest).lexer := by
  rw [advance, peek_lexer]
  simp [Cursor.lexer, Cursor.text, Cursor.offset, Cursor.previous?, byteAfter_concat]

/-- The lexer passes the characters of the kind, by induction on what is ahead. -/
theorem skipWhile_lexer (kind : Char → Bool)
    : cursor.lexer.skipWhile kind
      = some (cursor.advance (cursor.ahead.takeWhile kind).length).lexer := by
  obtain ⟨behind, ahead⟩ := cursor
  induction ahead generalizing behind with
  | nil => exact skipWhile_of_stops (peek_lexer _) nofun
  | cons c rest ih =>
      by_cases passing : kind c = true
      · rw [skipWhile_of_peek (peek_lexer _) passing, advance_lexer, Option.bind_some, ih,
          List.takeWhile_cons_of_pos passing, List.length_cons, Cursor.advance_succ]
      · rw [List.takeWhile_cons_of_neg passing]
        refine skipWhile_of_stops (peek_lexer _) ?_
        rintro _ ⟨⟩
        exact eq_false_of_ne_true passing

/-- The lexer passes the digits ahead and has them for an answer. -/
theorem skipDigits_lexer
    : cursor.lexer.skipDigits
      = some (String.ofList (cursor.ahead.takeWhile Char.isDigit),
          (cursor.advance (cursor.ahead.takeWhile Char.isDigit).length).lexer) := by
  rw [skipDigits, skipWhile_lexer]
  simp [Cursor.slice_of_prefix (List.takeWhile_prefix _)]

-----------------------------------------------------------------------------------------
-- Numbers
-----------------------------------------------------------------------------------------

/-- The lexer passes the fraction ahead, and its mark becomes a point. -/
theorem scanFraction_lexer
    : let fraction := (Fraction.scan ['.', ','] cursor.ahead).1
      cursor.lexer.scanFraction
      = some (fraction.map fun part => "." ++ String.ofList part.digits,
          (cursor.advance (fraction.elim [] Fraction.chars).length).lexer) := by
  obtain ⟨behind, ahead⟩ := cursor
  rw [scanFraction, peek_lexer]
  cases ahead with
  | nil => simp [Fraction.scan]
  | cons c rest =>
      by_cases marked : c ∈ ['.', ',']
      · have mark : c = '.' ∨ c = ',' := by simpa using marked
        simp [Fraction.scan_of_mem marked, mark, advance_lexer, skipDigits_lexer, Fraction.chars,
          Cursor.advance_succ]
      · have other : ¬(c = '.' ∨ c = ',') := by simpa using marked
        simp [Fraction.scan, other]

/-- The lexer passes the sign ahead. -/
theorem scanSign_lexer
    : let sign := (PowerPart.scanSign cursor.ahead).1.toList
      cursor.lexer.scanSign
      = some (String.ofList sign, (cursor.advance sign.length).lexer) := by
  obtain ⟨behind, ahead⟩ := cursor
  rw [scanSign, peek_lexer]
  cases ahead with
  | nil => simp [PowerPart.scanSign]
  | cons c rest =>
    by_cases plus : c = '+'
    · subst plus
      simp [PowerPart.scanSign, advance_lexer, Cursor.advance_succ]
    · by_cases minus : c = '-'
      · subst minus
        simp [PowerPart.scanSign, advance_lexer, Cursor.advance_succ]
      · simp [PowerPart.scanSign, plus, minus]

/-- The lexer passes the power of ten ahead. -/
theorem scanPower_lexer
    : let power := (PowerPart.scan cursor.ahead).1
      cursor.lexer.scanPower
      = some (power.map fun part => String.ofList part.chars,
          (cursor.advance (power.elim [] PowerPart.chars).length).lexer) := by
  obtain ⟨behind, ahead⟩ := cursor
  rw [scanPower, peek_lexer]
  cases ahead with
  | nil => simp [PowerPart.scan]
  | cons c rest =>
      by_cases letter : c = 'e'
      · subst letter
        have split := PowerPart.sign_append_rest rest
        have left := @Cursor.ahead_advance_of_append ⟨'e' :: behind, rest⟩ _ _ split
        simp [PowerPart.scan_e, advance_lexer, scanSign_lexer, skipDigits_lexer, left,
          PowerPart.chars, ← Cursor.advance_length_append, Cursor.advance_succ, String.append_assoc]
      · simp [PowerPart.scan, letter]

theorem readBelow?_ofList {digits : List Char} (nonempty : digits ≠ [])
    (all : ∀ c ∈ digits, c.isDigit = true) (limit : Nat)
    : readBelow? limit (String.ofList digits)
      = if Nat.ofDigitChars 10 digits 0 < limit then some (Nat.ofDigitChars 10 digits 0)
        else none := by
  simp [readBelow?, nonempty, List.all_eq_true.mpr all]

/-- The text of a numeral is read as the number which the numeral denotes. -/
theorem readNumber?_text {numeral : Numeral} (written : numeral.Written)
    : readNumber? numeral.text (numeral.fraction.isSome || numeral.power.isSome)
      = Number.ofNumeral? numeral := by
  have kind : (numeral.fraction.isSome || numeral.power.isSome) = !numeral.isWhole := by
    cases fraction : numeral.fraction <;> cases power : numeral.power
      <;> simp [Numeral.isWhole, fraction, power]
  rw [kind, readNumber?, Number.ofNumeral?, Numeral.readFloat?_text written]
  cases whole : numeral.isWhole with
  | false => cases numeral.isComplete <;> rfl
  | true =>
      obtain ⟨nonempty, digits⟩ := written.whole
      obtain ⟨fraction, power⟩ : numeral.fraction = none ∧ numeral.power = none := by
        simpa [Numeral.isWhole] using whole
      have complete : numeral.isComplete = true := by
        simp [Numeral.isComplete, power, nonempty]
      have text : numeral.text = String.ofList numeral.whole := by
        simp [Numeral.text, Numeral.chars, fraction, power]
      have value : numeral.toDecimal.coefficient = Nat.ofDigitChars 10 numeral.whole 0 := by
        simp [Numeral.toDecimal, Numeral.fractionDigits, fraction]
      rw [text, readBelow?_ofList nonempty digits, complete]
      generalize 1 <<< 63 = limit
      by_cases small : Nat.ofDigitChars 10 numeral.whole 0 < limit <;> simp [small, value]

/-- The text of a numeral is put together from its parts. -/
theorem text_eq_append (numeral : Numeral)
    : numeral.text
      = String.ofList numeral.whole
        ++ (numeral.fraction.map fun part => "." ++ String.ofList part.digits).getD ""
        ++ (numeral.power.map fun part => String.ofList part.chars).getD "" := by
  obtain ⟨whole, fraction, power⟩ := numeral
  cases fraction <;> cases power
    <;> simp [Numeral.text, Numeral.chars, Fraction.chars, String.append_assoc]

/-- The lexer reads the number ahead. -/
theorem scanNumber_lexer {c : Char} (digit : c.isDigit = true) (behind rest : List Char)
    : let numeral := (Numeral.scan ['.', ','] (c :: rest)).1
      let cursor := Cursor.mk behind (c :: rest)
      cursor.lexer.scanNumber
      = some ((Lexeme.ofNumeral numeral).token.map some,
          (cursor.advance numeral.chars.length).lexer) := by
  intro numeral cursor
  have written : numeral.Written := Numeral.written_scan digit rest
  let afterWhole := cursor.advance numeral.whole.length
  let afterFraction := afterWhole.advance (numeral.fraction.elim [] Fraction.chars).length
  -- Each part is scanned where the one before it ends.
  have aheadOfFraction : afterWhole.ahead = (c :: rest).dropWhile Char.isDigit :=
    Cursor.ahead_advance_of_append List.takeWhile_append_dropWhile
  have aheadOfPower
      : afterFraction.ahead = (Fraction.scan ['.', ','] ((c :: rest).dropWhile Char.isDigit)).2 :=
    Cursor.ahead_advance_of_append
      ((Fraction.chars_append_rest _ _).trans aheadOfFraction.symm)
  have whole : cursor.lexer.skipDigits = some (String.ofList numeral.whole, afterWhole.lexer) :=
    skipDigits_lexer cursor
  have fraction
      : afterWhole.lexer.scanFraction
        = some (numeral.fraction.map fun part => "." ++ String.ofList part.digits,
            afterFraction.lexer) := by
    have scanned := scanFraction_lexer afterWhole
    rw [aheadOfFraction] at scanned
    exact scanned
  have finish
      : afterFraction.advance (numeral.power.elim [] PowerPart.chars).length
        = cursor.advance numeral.chars.length := by
    simp only [afterFraction, afterWhole, ← Cursor.advance_length_append, Numeral.chars]
  have power
      : afterFraction.lexer.scanPower
        = some (numeral.power.map fun part => String.ofList part.chars,
            (cursor.advance numeral.chars.length).lexer) := by
    have scanned := scanPower_lexer afterFraction
    rw [aheadOfPower] at scanned
    rw [← finish]
    exact scanned
  simp only [scanNumber, whole, fraction, power, Option.bind_eq_bind, Option.bind_some,
    Option.isSome_map, ← text_eq_append, readNumber?_text written, Lexeme.ofNumeral]
  cases Number.ofNumeral? numeral <;> rfl

-----------------------------------------------------------------------------------------
-- Words and variables
-----------------------------------------------------------------------------------------

/-- The lexer reads the word ahead. -/
theorem scanWord_lexer
    : let word := cursor.ahead.takeWhile Unicode.isAlphanumeric
      cursor.lexer.scanWord
      = some ((Lexeme.ofWord word).token.map some, (cursor.advance word.length).lexer) := by
  intro word
  rw [scanWord, skipWhile_lexer]
  simp only [Option.bind_eq_bind, Option.bind_some]
  rw [Cursor.slice_of_prefix (List.takeWhile_prefix _), Option.bind_some, Lexeme.ofWord]
  cases Token.ofWord? (String.ofList word) <;> rfl

/-- The lexer reads the variable ahead. -/
theorem scanVar_lexer (behind rest : List Char)
    : let digits := rest.takeWhile Char.isDigit
      let cursor := Cursor.mk behind ('x' :: rest)
      cursor.lexer.scanVar
      = some ((Lexeme.ofIndex digits).token.map some,
          (cursor.advance ('x' :: digits).length).lexer) := by
  intro digits cursor
  have scanned
      : (Cursor.mk ('x' :: behind) rest).lexer.skipDigits
        = some (String.ofList digits, (cursor.advance ('x' :: digits).length).lexer) := by
    rw [List.length_cons, Cursor.advance_succ]
    exact skipDigits_lexer _
  have named : String.ofList ('x' :: digits) = "x" ++ String.ofList digits := by
    rw [← List.singleton_append, String.ofList_append]
  simp only [scanVar, cursor, advance_lexer, scanned, Option.bind_eq_bind, Option.bind_some,
    Lexeme.ofIndex, named]
  by_cases none : digits = []
  · rw [none]
    rfl
  · have some : (String.ofList digits).isEmpty = false := by simp [none]
    have all : ∀ c ∈ digits, c.isDigit = true := List.all_eq_true.mp List.all_takeWhile
    rw [some, readBelow?_ofList none all]
    by_cases fits : Nat.ofDigitChars 10 digits 0 < UInt64.size
    · simp only [if_pos fits]
      rfl
    · simp only [if_neg fits]
      rfl

-----------------------------------------------------------------------------------------
-- Tokens
-----------------------------------------------------------------------------------------

/-- The lexer answers what the cursor does, and comes to the same place. -/
theorem next_lexer : cursor.lexer.next = some (cursor.next.1, cursor.next.2.lexer) := by
  obtain ⟨behind, ahead⟩ := cursor
  rw [next, peek_lexer, Cursor.next]
  cases ahead with
  | nil => rfl
  | cons c rest =>
      simp only [List.head?_cons, Option.bind_eq_bind, Option.bind_some]
      rw [Lexeme.first?]
      split
      · rename_i isX
        subst isX
        exact scanVar_lexer behind rest
      · split
        · exact scanWord_lexer _
        · split
          · rename_i digit
            exact scanNumber_lexer digit behind rest
          · cases mark : Token.ofMark? c with
            | some token =>
                simp only [advance_lexer, Option.bind_some]
                rfl
            | none =>
                have before := Cursor.slice_behind ⟨behind, c :: rest⟩
                simp only [before, Option.bind_some, String.length_ofList, List.length_reverse]
                rfl

end Lexer

end Formulary
