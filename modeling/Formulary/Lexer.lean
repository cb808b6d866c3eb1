import Formulary.Decimal.Reader
import Formulary.Error
import Formulary.Text.Normal
import Formulary.Unicode.Numeric

/-! A lexer with its state written out: the text, the byte from which it goes on, and the character
which it passed last. It sees the text through slices, and to take a slice between two bytes which
are not boundaries of characters, or not in order, is no answer but a crash. A crash is `none`
here.
-/

namespace Formulary

/-- A lexer on its way through a text. -/
structure Lexer where
  text : String
  /-- The byte from which the lexer goes on. -/
  pos : String.Pos.Raw
  /-- The character which was passed last. -/
  previous : Option Char
deriving DecidableEq

namespace Lexer

/-- The lexer in front of the normal text of a formula. -/
def ofFormula (formula : String) : Lexer :=
  { text := String.ofList (Text.normalize formula), pos := 0, previous := none }

/-- The text between two bytes. -/
def slice (text : String) (start stop : String.Pos.Raw) : Option String :=
  if valid : start.IsValid text ∧ stop.IsValid text ∧ start ≤ stop then
    let part :=
      text.slice (text.pos start valid.1) (text.pos stop valid.2.1)
        (String.Pos.le_iff.mpr valid.2.2)
    some part.copy
  else none

/-- The next character, if there is one. -/
def peek (lexer : Lexer) : Option (Option Char) := do
  let ahead ← slice lexer.text lexer.pos lexer.text.rawEndPos
  return ahead.toList.head?

/-- The lexer behind the next character, if there is one. -/
def advance (lexer : Lexer) : Option Lexer := do
  match ← lexer.peek with
  | none => return lexer
  | some c => return { lexer with pos := lexer.pos + c, previous := some c }

/-- A slice has the bytes between its ends. -/
theorem utf8ByteSize_of_slice {text part : String} {start stop : String.Pos.Raw}
    (sliced : slice text start stop = some part)
    : part.utf8ByteSize = stop.byteIdx - start.byteIdx := by
  unfold slice at sliced
  split at sliced
  · cases sliced
    rw [String.Slice.utf8ByteSize_copy, String.utf8ByteSize_slice]
    rfl
  · cases sliced

/-- Where there is a next character, the text has more bytes. -/
theorem pos_lt_of_peek {lexer : Lexer} {c : Char} (next : lexer.peek = some (some c))
    : lexer.pos.byteIdx < lexer.text.utf8ByteSize := by
  obtain ⟨ahead, sliced, first⟩ := Option.bind_eq_some_iff.mp next
  have size := utf8ByteSize_of_slice sliced
  have nonempty : ahead.utf8ByteSize ≠ 0 := by
    rw [ne_eq, String.utf8ByteSize_eq_zero_iff]
    rintro rfl
    cases first
  have : lexer.text.rawEndPos.byteIdx = lexer.text.utf8ByteSize := rfl
  omega

/-- The next character is passed with all its bytes. -/
theorem advance_of_peek {lexer : Lexer} {c : Char} (next : lexer.peek = some (some c))
    : lexer.advance = some { lexer with pos := lexer.pos + c, previous := some c } := by
  simp [advance, next]

/-- The lexer behind all characters of the kind which come next. -/
def skipWhile (kind : Char → Bool) (lexer : Lexer) : Option Lexer :=
  match _ : lexer.peek with
  | none => none
  | some none => some lexer
  | some (some c) =>
      if kind c then
        match _ : lexer.advance with
        | none => none
        | some behind => skipWhile kind behind
      else some lexer
termination_by lexer.text.utf8ByteSize - lexer.pos.byteIdx
decreasing_by
  rename_i found _ moved
  rw [advance_of_peek found] at moved
  cases moved
  have more := pos_lt_of_peek found
  have bytes := c.utf8Size_pos
  have : (lexer.pos + c).byteIdx = lexer.pos.byteIdx + c.utf8Size := rfl
  simp only
  omega

/-- A character of the kind is passed, and then those behind it. -/
theorem skipWhile_of_peek {kind : Char → Bool} {lexer : Lexer} {c : Char}
    (next : lexer.peek = some (some c)) (passing : kind c = true)
    : lexer.skipWhile kind = lexer.advance.bind (skipWhile kind) := by
  rw [skipWhile]
  split
  · simp_all
  · simp_all
  · rename_i found
    obtain rfl : c = _ := by simpa [next] using found
    rw [if_pos passing]
    split <;> simp_all

/-- Nothing is passed where no character of the kind comes next. -/
theorem skipWhile_of_stops {kind : Char → Bool} {lexer : Lexer} {next : Option Char}
    (seen : lexer.peek = some next) (stops : ∀ c ∈ next, kind c = false)
    : lexer.skipWhile kind = some lexer := by
  rw [skipWhile]
  split
  · simp_all
  · rfl
  · rename_i c found
    have other : kind c = false := stops c (by simpa [seen] using found)
    simp [other]

/-- Passes the digits which come next, and gives them. -/
def skipDigits (lexer : Lexer) : Option (String × Lexer) := do
  let behind ← lexer.skipWhile Char.isDigit
  return (← slice behind.text lexer.pos behind.pos, behind)

/-- What the lexer answers: a token, or none at the end of the text. -/
abbrev Answer := Except Error (Option Token)

/-- Reads a word, which should be reserved. -/
def scanWord (lexer : Lexer) : Option (Answer × Lexer) := do
  let behind ← lexer.skipWhile Unicode.isAlphanumeric
  let word ← slice behind.text lexer.pos behind.pos
  match Token.ofWord? word with
  | some token => return (.ok (some token), behind)
  | none => return (.error (.unknownWord word), behind)

/-- The number which a text of digits states, if it is below the limit. -/
def readBelow? (limit : Nat) (text : String) : Option Nat :=
  let digits := text.toList
  let number := Nat.ofDigitChars 10 digits 0
  if !digits.isEmpty && digits.all Char.isDigit && number < limit then some number else none

/-- Reads a variable, whose index is 0 without digits. -/
def scanVar (lexer : Lexer) : Option (Answer × Lexer) := do
  let (digits, behind) ← (← lexer.advance).skipDigits
  if digits.isEmpty then return (.ok (some (.var 0)), behind)
  match readBelow? UInt64.size digits with
  | some index => return (.ok (some (.var (UInt64.ofNat index))), behind)
  | none => return (.error (.invalidNumeral ("x" ++ digits)), behind)

/-- Reads a fraction, if a mark comes next. The mark is written as a point. -/
def scanFraction (lexer : Lexer) : Option (Option String × Lexer) := do
  let next ← lexer.peek
  if next = some '.' ∨ next = some ',' then
    let (digits, behind) ← (← lexer.advance).skipDigits
    return (some ("." ++ digits), behind)
  else return (none, lexer)

/-- Reads a sign, if one comes next. -/
def scanSign (lexer : Lexer) : Option (String × Lexer) := do
  match ← lexer.peek with
  | some '+' => return ("+", ← lexer.advance)
  | some '-' => return ("-", ← lexer.advance)
  | _ => return ("", lexer)

/-- Reads a power of ten, if its letter comes next. -/
def scanPower (lexer : Lexer) : Option (Option String × Lexer) := do
  if (← lexer.peek) = some 'e' then
    let (sign, behind) ← (← lexer.advance).scanSign
    let (digits, behind) ← behind.skipDigits
    return (some ("e" ++ sign ++ digits), behind)
  else return (none, lexer)

/-- The number which is written so. An integer of more than 64 bits is read as a real number. -/
def readNumber? (literal : String) (isReal : Bool) : Option Number :=
  let real := (Decimal.readFloat? literal).map Number.real
  if isReal then real
  else
    match readBelow? (1 <<< 63) literal with
    | some value => some (.integer (Int64.ofNat value))
    | none => real

/-- Reads a number. -/
def scanNumber (lexer : Lexer) : Option (Answer × Lexer) := do
  let (whole, behind) ← lexer.skipDigits
  let (fraction, behind) ← behind.scanFraction
  let (power, behind) ← behind.scanPower
  let literal := whole ++ fraction.getD "" ++ power.getD ""
  match readNumber? literal (fraction.isSome || power.isSome) with
  | some number => return (.ok (some (.number number)), behind)
  | none => return (.error (.invalidNumeral literal), behind)

/-- Reads the next token. The end of the text is not passed, and no more is a character with which
nothing begins.
-/
def next (lexer : Lexer) : Option (Answer × Lexer) := do
  match ← lexer.peek with
  | none => return (.ok none, lexer)
  | some c =>
      if c = 'x' then lexer.scanVar
      else if Unicode.isAlphabetic c then lexer.scanWord
      else if c.isDigit then lexer.scanNumber
      else
        match Token.ofMark? c with
        | some token => return (.ok (some token), ← lexer.advance)
        | none =>
            let before ← slice lexer.text 0 lexer.pos
            return (.error (.unexpectedChar c before.length lexer.previous), lexer)

/-- The other lexer is in the same text, at least so many bytes further on. -/
structure Moves (lexer behind : Lexer) (least : Nat) : Prop where
  text : behind.text = lexer.text
  pos : lexer.pos.byteIdx + least ≤ behind.pos.byteIdx

section

variable {lexer behind : Lexer}

theorem Moves.refl (lexer : Lexer) : lexer.Moves lexer 0 :=
  ⟨rfl, Nat.le_refl _⟩

theorem Moves.trans {further : Lexer} {first second : Nat} (here : lexer.Moves behind first)
    (there : behind.Moves further second)
    : lexer.Moves further (first + second) := by
  refine ⟨there.text.trans here.text, ?_⟩
  have := here.pos
  have := there.pos
  omega

/-- A character has one byte at least. -/
theorem moves_advance_of_peek {c : Char} (next : lexer.peek = some (some c))
    (moved : lexer.advance = some behind)
    : lexer.Moves behind 1 := by
  rw [advance_of_peek next] at moved
  cases moved
  exact ⟨rfl, Nat.add_le_add_left c.utf8Size_pos _⟩

theorem moves_advance (moved : lexer.advance = some behind) : lexer.Moves behind 0 := by
  obtain ⟨next, seen, passed⟩ := Option.bind_eq_some_iff.mp moved
  cases next with
  | none =>
      cases passed
      exact .refl lexer
  | some c =>
      have further := moves_advance_of_peek seen moved
      exact ⟨further.text, Nat.le_of_succ_le further.pos⟩

/-- What is skipped is passed character by character, by induction on the characters. -/
theorem moves_skipWhile {kind : Char → Bool} (skipped : lexer.skipWhile kind = some behind)
    : lexer.Moves behind 0 := by
  fun_induction skipWhile kind lexer with
  | case1 | case3 => cases skipped
  | case2 | case5 =>
      cases skipped
      exact .refl _
  | case4 lexer c seen passing second moved ih =>
      exact (moves_advance moved).trans (ih skipped)

theorem moves_skipWhile_of_peek {kind : Char → Bool} {c : Char}
    (next : lexer.peek = some (some c)) (passing : kind c = true)
    (skipped : lexer.skipWhile kind = some behind)
    : lexer.Moves behind 1 := by
  rw [skipWhile_of_peek next passing] at skipped
  obtain ⟨second, moved, skipped⟩ := Option.bind_eq_some_iff.mp skipped
  exact (moves_advance_of_peek next moved).trans (moves_skipWhile skipped)

/-- Taking a slice moves nothing. -/
theorem skipWhile_of_skipDigits {digits : String}
    (skipped : lexer.skipDigits = some (digits, behind))
    : lexer.skipWhile Char.isDigit = some behind := by
  obtain ⟨stop, moved, sliced⟩ := Option.bind_eq_some_iff.mp skipped
  obtain ⟨part, _, result⟩ := Option.bind_eq_some_iff.mp sliced
  cases result
  exact moved

theorem moves_scanFraction {fraction : Option String}
    (scanned : lexer.scanFraction = some (fraction, behind))
    : lexer.Moves behind 0 := by
  obtain ⟨next, _, scanned⟩ := Option.bind_eq_some_iff.mp scanned
  split at scanned
  · obtain ⟨second, moved, scanned⟩ := Option.bind_eq_some_iff.mp scanned
    obtain ⟨⟨digits, third⟩, skipped, result⟩ := Option.bind_eq_some_iff.mp scanned
    cases result
    exact (moves_advance moved).trans (moves_skipWhile (skipWhile_of_skipDigits skipped))
  · cases scanned
    exact .refl lexer

theorem moves_scanSign {sign : String} (scanned : lexer.scanSign = some (sign, behind))
    : lexer.Moves behind 0 := by
  obtain ⟨next, _, scanned⟩ := Option.bind_eq_some_iff.mp scanned
  split at scanned
  · obtain ⟨second, moved, result⟩ := Option.bind_eq_some_iff.mp scanned
    cases result
    exact moves_advance moved
  · obtain ⟨second, moved, result⟩ := Option.bind_eq_some_iff.mp scanned
    cases result
    exact moves_advance moved
  · cases scanned
    exact .refl lexer

theorem moves_scanPower {power : Option String}
    (scanned : lexer.scanPower = some (power, behind))
    : lexer.Moves behind 0 := by
  obtain ⟨next, _, scanned⟩ := Option.bind_eq_some_iff.mp scanned
  split at scanned
  · obtain ⟨second, moved, scanned⟩ := Option.bind_eq_some_iff.mp scanned
    obtain ⟨⟨sign, third⟩, signed, scanned⟩ := Option.bind_eq_some_iff.mp scanned
    obtain ⟨⟨digits, fourth⟩, skipped, result⟩ := Option.bind_eq_some_iff.mp scanned
    cases result
    have front := (moves_advance moved).trans (moves_scanSign signed)
    exact front.trans (moves_skipWhile (skipWhile_of_skipDigits skipped))
  · cases scanned
    exact .refl lexer

section

variable {c : Char} (seen : lexer.peek = some (some c)) {answer : Answer}
include seen

theorem moves_scanVar (scanned : lexer.scanVar = some (answer, behind))
    : lexer.Moves behind 1 := by
  obtain ⟨second, moved, scanned⟩ := Option.bind_eq_some_iff.mp scanned
  obtain ⟨⟨digits, third⟩, skipped, result⟩ := Option.bind_eq_some_iff.mp scanned
  have passed : lexer.Moves third 1 :=
    (moves_advance_of_peek seen moved).trans (moves_skipWhile (skipWhile_of_skipDigits skipped))
  simp only at result
  split at result
  · cases result
    exact passed
  · split at result <;> cases result <;> exact passed

theorem moves_scanWord (letter : Unicode.isAlphabetic c = true)
    (scanned : lexer.scanWord = some (answer, behind))
    : lexer.Moves behind 1 := by
  obtain ⟨stop, skipped, scanned⟩ := Option.bind_eq_some_iff.mp scanned
  obtain ⟨word, _, result⟩ := Option.bind_eq_some_iff.mp scanned
  have passed : lexer.Moves stop 1 :=
    moves_skipWhile_of_peek seen (Unicode.isAlphanumeric_of_isAlphabetic letter) skipped
  split at result <;> cases result <;> exact passed

theorem moves_scanNumber (digit : c.isDigit = true)
    (scanned : lexer.scanNumber = some (answer, behind))
    : lexer.Moves behind 1 := by
  obtain ⟨⟨whole, second⟩, skipped, scanned⟩ := Option.bind_eq_some_iff.mp scanned
  obtain ⟨⟨fraction, third⟩, marked, scanned⟩ := Option.bind_eq_some_iff.mp scanned
  obtain ⟨⟨power, stop⟩, raised, result⟩ := Option.bind_eq_some_iff.mp scanned
  have front := moves_skipWhile_of_peek seen digit (skipWhile_of_skipDigits skipped)
  have passed : lexer.Moves stop 1 :=
    (front.trans (moves_scanFraction marked)).trans (moves_scanPower raised)
  simp only at result
  split at result <;> cases result <;> exact passed

end

/-- A token is passed with at least one byte. -/
theorem moves_next {token : Token} (read : lexer.next = some (.ok (some token), behind))
    : lexer.Moves behind 1 := by
  obtain ⟨head, seen, read⟩ := Option.bind_eq_some_iff.mp read
  cases head with
  | none => cases read
  | some c =>
      simp only at read
      split at read
      · exact moves_scanVar seen read
      · split at read
        · exact moves_scanWord seen ‹_› read
        · split at read
          · exact moves_scanNumber seen ‹_› read
          · split at read
            · obtain ⟨stop, moved, result⟩ := Option.bind_eq_some_iff.mp read
              cases result
              exact moves_advance_of_peek seen moved
            · obtain ⟨before, _, result⟩ := Option.bind_eq_some_iff.mp read
              cases result

/-- So there is less of the text behind a token than in front of it. -/
theorem left_lt_of_next {token : Token} (read : lexer.next = some (.ok (some token), behind))
    : behind.text.utf8ByteSize - behind.pos.byteIdx
      < lexer.text.utf8ByteSize - lexer.pos.byteIdx := by
  have moved := moves_next read
  obtain ⟨head, seen, read⟩ := Option.bind_eq_some_iff.mp read
  cases head with
  | none => cases read
  | some c =>
      have within := pos_lt_of_peek seen
      have further := moved.pos
      rw [moved.text]
      omega

end

/-- The tokens taken before and all which come next, up to the end of the text or the first
failure. The lexer is asked for one after the other.
-/
def tokensAfter (taken : List Token) (lexer : Lexer) : Option (Except Error (List Token)) :=
  match _ : lexer.next with
  | none => none
  | some (.error error, _) => some (.error error)
  | some (.ok none, _) => some (.ok taken)
  | some (.ok (some token), behind) => tokensAfter (taken ++ [token]) behind
termination_by lexer.text.utf8ByteSize - lexer.pos.byteIdx
decreasing_by exact left_lt_of_next ‹_›

end Lexer

end Formulary
