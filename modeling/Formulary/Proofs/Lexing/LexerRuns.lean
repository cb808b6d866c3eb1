import Formulary.Proofs.Lexing.LexerSteps
import Formulary.Proofs.Reading.LazyReading

/-! Runs of a lexer over the normal text of a formula. A call takes a lexeme, with a token or
without, or it stays for good, at the end of the text or in front of a character which begins no
lexeme. So the lexer keeps its place in the text, whatever it answers, and comes to rest.
-/

namespace Formulary

open TokenStream

-----------------------------------------------------------------------------------------
-- Answers of a cursor
-----------------------------------------------------------------------------------------

namespace Cursor

/-- A run goes on where its first steps end, by induction on these. -/
theorem after_succ (cursor : Cursor) (count : Nat)
    : cursor.after (count + 1) = (cursor.after count).next.2 := by
  induction count generalizing cursor with
  | zero => rfl
  | succ count ih => exact ih cursor.next.2

end Cursor

namespace TokenStream

/-- What comes first in the stream, with no token at its end. -/
def front : TokenStream → Except Error (Option Token)
  | finish => .ok none
  | fault error => .error error
  | token head _ => .ok (some head)

/-- What the cursor answers comes first in its stream. -/
theorem front_ofCursor (cursor : Cursor) : (ofCursor cursor).front = cursor.next.1 := by
  rw [ofCursor]
  split
  · rename_i failed
    rw [failed]
    rfl
  · rename_i ended
    rw [ended]
    rfl
  · rename_i read
    rw [read]
    rfl

/-- The answers of a run are the tokens of its stream, and then what the stream ends in. -/
theorem next_after {cursor : Cursor} {tokens : List Token} {rest : TokenStream}
    (lexed : ofCursor cursor = prepend tokens rest)
    : (∀ count < tokens.length, (cursor.after count).next.1 = .ok tokens[count]?)
      ∧ (cursor.after tokens.length).next.1 = rest.front := by
  constructor
  · intro count within
    rw [← front_ofCursor, ofCursor_after lexed (Nat.le_of_lt within),
      List.drop_eq_getElem_cons within, List.getElem?_eq_getElem within]
    rfl
  · rw [← front_ofCursor, ofCursor_after lexed (Nat.le_refl _), List.drop_length]
    rfl

end TokenStream

namespace Lexer

-----------------------------------------------------------------------------------------
-- Places in a text
-----------------------------------------------------------------------------------------

/-- The lexer is behind so many characters of the text, at the boundary between the last of them
and the next, and it has kept the last one.
-/
structure IsAt (lexer : Lexer) (text : List Char) (place : Nat) : Prop where
  within : place ≤ text.length
  whole : lexer.text = String.ofList text
  pos : lexer.pos = byteAfter (text.take place)
  previous : lexer.previous = if place = 0 then none else text[place - 1]?

/-- More characters have more bytes. -/
theorem byteAfter_take_lt {text : List Char} {place further : Nat} (less : place < further)
    (within : further ≤ text.length)
    : byteAfter (text.take place) < byteAfter (text.take further) := by
  obtain ⟨more, rfl⟩ := Nat.exists_eq_add_of_lt less
  have part : (text.drop place).take (more + 1) ≠ [] := by
    rw [ne_eq, ← List.length_eq_zero_iff, List.length_take, List.length_drop]
    omega
  rw [Nat.add_assoc, List.take_add]
  exact byteAfter_lt_append _ part

namespace IsAt

variable {lexer other : Lexer} {text : List Char} {place further : Nat}

theorem boundary (here : lexer.IsAt text place) : lexer.pos.IsValid lexer.text := by
  rw [here.whole, here.pos]
  have valid := isValid_byteAfter (text.take place) (text.drop place)
  rwa [List.take_append_drop] at valid

/-- Only at the start no character has been passed. -/
theorem previous_eq_none_iff (here : lexer.IsAt text place)
    : lexer.previous = none ↔ lexer.pos = 0 := by
  have within := here.within
  rw [here.previous, here.pos]
  cases place with
  | zero => exact iff_of_true rfl rfl
  | succ before =>
      have passed := byteAfter_take_lt (Nat.succ_pos before) within
      have kept : text[before]? ≠ none := by simpa using within
      exact iff_of_false kept fun start => by
        rw [start] at passed
        exact absurd passed (Nat.not_lt_zero _)

theorem pos_le (here : lexer.IsAt text place) (there : other.IsAt text further)
    (ordered : place ≤ further)
    : lexer.pos ≤ other.pos := by
  rw [here.pos, there.pos]
  rcases Nat.lt_or_eq_of_le ordered with less | rfl
  · exact Nat.le_of_lt (byteAfter_take_lt less there.within)
  · exact Nat.le_refl _

/-- There is one lexer for each place. -/
theorem unique (here : lexer.IsAt text place) (there : other.IsAt text place) : other = lexer := by
  cases lexer
  cases other
  obtain ⟨_, rfl, rfl, rfl⟩ := here
  obtain ⟨_, rfl, rfl, rfl⟩ := there
  rfl

theorem pos_lt (here : lexer.IsAt text place) (there : other.IsAt text further)
    (less : place < further)
    : lexer.pos < other.pos := by
  rw [here.pos, there.pos]
  exact byteAfter_take_lt less there.within

/-- A lexer has one place. -/
theorem place_unique (here : lexer.IsAt text place) (there : lexer.IsAt text further)
    : place = further := by
  rcases Nat.lt_trichotomy place further with less | same | more
  · exact absurd (here.pos_lt there less) (Nat.lt_irrefl _)
  · exact same
  · exact absurd (there.pos_lt here more) (Nat.lt_irrefl _)

end IsAt

/-- The lexer of a cursor is in the place of the cursor. -/
theorem isAt_lexer (cursor : Cursor) : cursor.lexer.IsAt cursor.text cursor.position where
  within := by simp [Cursor.text, Cursor.position]
  whole := rfl
  pos := by simp [Cursor.lexer, Cursor.offset, Cursor.text, Cursor.position]
  previous := by
    unfold Cursor.lexer Cursor.previous? Cursor.position Cursor.text
    cases cursor.behind with
    | nil => rfl
    | cons c rest => simp

/-- A lexer which is in a place is that of the cursor there. -/
theorem IsAt.exists_cursor {lexer : Lexer} {text : List Char} {place : Nat}
    (here : lexer.IsAt text place)
    : ∃ cursor : Cursor, lexer = cursor.lexer ∧ cursor.text = text ∧ cursor.position = place := by
  let cursor : Cursor := { behind := (text.take place).reverse, ahead := text.drop place }
  have whole : cursor.text = text := by simp [cursor, Cursor.text]
  have position : cursor.position = place := by simp [cursor, Cursor.position, here.within]
  have there := isAt_lexer cursor
  rw [whole, position] at there
  exact ⟨cursor, there.unique here, whole, position⟩

-----------------------------------------------------------------------------------------
-- Steps
-----------------------------------------------------------------------------------------

/-- The answer is the last one: the end of the text, or a character which begins no lexeme.
-/
def isLast : Answer → Bool
  | .ok none | .error (.unexpectedChar ..) => true
  | _ => false

/-- What a call can do in a place of the text, by its answer and the place of the lexer after it.
-/
inductive Step (text : List Char) (place : Nat) : Answer → Nat → Prop where
  | lexeme {answer : Answer} {further : Nat} (passing : isLast answer = false)
    (forward : place < further)
    : Step text place answer further
  | char {c : Char} {previous : Option Char} (here : text[place]? = some c)
    (before : previous = if place = 0 then none else text[place - 1]?)
    : Step text place (.error (.unexpectedChar c place previous)) place
  | finish (ended : place = text.length) : Step text place (.ok none) place

/-- A lexeme is never the last answer, whether or not it has a token. -/
theorem not_isLast_of_first? {text : List Char} {lexeme : Lexeme}
    (found : Lexeme.first? text = some lexeme)
    : isLast (lexeme.token.map some) = false := by
  have denotes := Lexeme.denotes_of_first? found
  generalize lexeme.chars = word at denotes
  cases token : lexeme.token with
  | ok head => rfl
  | error error =>
      rw [token] at denotes
      cases denotes with
      | hugeVar | unknownWord | barePower => rfl

/-- Every move of a cursor is such a step, and keeps the text. -/
theorem step_cursor (cursor : Cursor)
    : cursor.next.2.text = cursor.text
      ∧ Step cursor.text cursor.position cursor.next.1 cursor.next.2.position := by
  unfold Cursor.next
  split
  · rename_i lexeme found
    refine ⟨cursor.text_advance _, .lexeme (not_isLast_of_first? found) ?_⟩
    have taken := (Lexeme.prefix_of_first? found).length_le
    have some := List.length_pos_iff.mpr (Lexeme.chars_ne_nil_of_first? found)
    simp only [Cursor.position, Cursor.advance, List.length_append, List.length_reverse,
      List.length_take]
    omega
  · split
    · rename_i ended
      exact ⟨rfl, .finish (by simp [Cursor.position, Cursor.text, ended])⟩
    · rename_i c rest found
      have ahead : cursor.text[cursor.position]? = some c := by
        simp [Cursor.position, Cursor.text, found]
      exact ⟨rfl, .char ahead (isAt_lexer cursor).previous⟩

/-- A lexer which is in a place of the text answers, and is in a place of the text again. -/
theorem IsAt.exists_next {lexer : Lexer} {text : List Char} {place : Nat}
    (here : lexer.IsAt text place)
    : ∃ answer later further,
        lexer.next = some (answer, later)
        ∧ later.IsAt text further
        ∧ Step text place answer further := by
  obtain ⟨cursor, rfl, rfl, rfl⟩ := here.exists_cursor
  obtain ⟨kept, step⟩ := step_cursor cursor
  have there := isAt_lexer cursor.next.2
  rw [kept] at there
  exact ⟨_, _, _, next_lexer cursor, there, step⟩

namespace Step

variable {text : List Char} {place further : Nat} {answer : Answer}

/-- A step which does not answer for the last time goes forward, and no step goes back. -/
theorem place_le (step : Step text place answer further)
    : place + (if isLast answer then 0 else 1) ≤ further := by
  cases step with
  | lexeme passing forward => simpa [passing] using forward
  | char | finish => exact Nat.le_refl _

/-- The last answer leaves the lexer where it is. -/
theorem eq_of_isLast (step : Step text place answer further) (last : isLast answer = true)
    : further = place := by
  cases step with
  | lexeme passing =>
      rw [passing] at last
      cases last
  | char | finish => rfl

/-- The end is answered at the end of the text only. -/
theorem place_of_finish (step : Step text place (.ok none) further) : place = text.length := by
  cases step with
  | lexeme passing => cases passing
  | finish ended => exact ended

/-- A character which begins no lexeme is reported with its place and the character before it.
-/
theorem unexpectedChar_eq {found : Char} {position : Nat} {previous : Option Char}
    (step : Step text place (.error (.unexpectedChar found position previous)) further)
    : position = place
      ∧ text[place]? = some found
      ∧ previous = if place = 0 then none else text[place - 1]? := by
  cases step with
  | lexeme passing => cases passing
  | char here before => exact ⟨rfl, here, before⟩

end Step

-----------------------------------------------------------------------------------------
-- Runs
-----------------------------------------------------------------------------------------

/-- The lexer is called again and again, whatever it answers, and no call crashes. -/
structure IsRun (lexer : Lexer) (state : Nat → Lexer) (answer : Nat → Answer) : Prop where
  start : state 0 = lexer
  step : ∀ count, (state count).next = some (answer count, state (count + 1))

/-- The states are in places of the text, each one reached from the one before by a step. -/
structure Keeps (text : List Char) (state : Nat → Lexer) (answer : Nat → Answer)
    (place : Nat → Nat)
    : Prop where
  isAt : ∀ count, (state count).IsAt text (place count)
  step : ∀ count, Step text (place count) (answer count) (place (count + 1))

/-- How many of the first answers are not the last one. -/
def passes (answer : Nat → Answer) (count : Nat) : Nat :=
  (List.range count).countP fun step => !isLast (answer step)

variable {lexer : Lexer} {text : List Char} {state : Nat → Lexer} {answer : Nat → Answer}
  {place : Nat → Nat} {start : Nat}

/-- A run which begins in the text stays in it, by induction on its steps. -/
theorem IsRun.exists_isAt (run : lexer.IsRun state answer) (here : lexer.IsAt text start)
    (count : Nat)
    : ∃ place, (state count).IsAt text place := by
  induction count with
  | zero => exact ⟨start, run.start ▸ here⟩
  | succ count ih =>
      obtain ⟨place, here⟩ := ih
      obtain ⟨_, _, further, answered, there, _⟩ := here.exists_next
      rw [run.step] at answered
      cases answered
      exact ⟨further, there⟩

/-- A run which begins in the text keeps its place in it. -/
theorem IsRun.exists_keeps (run : lexer.IsRun state answer) (here : lexer.IsAt text start)
    : ∃ place, Keeps text state answer place := by
  choose place isAt using run.exists_isAt here
  refine ⟨place, isAt, fun count => ?_⟩
  obtain ⟨_, _, further, answered, there, step⟩ := (isAt count).exists_next
  rw [run.step] at answered
  cases answered
  rwa [there.place_unique (isAt (count + 1))] at step

/-- A lexer has one run, by induction on its steps. -/
theorem IsRun.unique {state' : Nat → Lexer} {answer' : Nat → Answer}
    (run : lexer.IsRun state answer) (other : lexer.IsRun state' answer') (count : Nat)
    : state' count = state count ∧ answer' count = answer count := by
  have same : state' count = state count := by
    induction count with
    | zero => rw [run.start, other.start]
    | succ count ih =>
        have step := other.step count
        rw [ih, run.step] at step
        exact (Prod.mk.inj (Option.some.inj step)).2.symm
  have step := other.step count
  rw [same, run.step] at step
  exact ⟨same, (Prod.mk.inj (Option.some.inj step)).1.symm⟩

namespace Keeps

/-- With every answer but the last one the run comes at least one character further, by induction
on its steps.
-/
theorem passes_le_place (keeps : Keeps text state answer place) (count : Nat)
    : place 0 + passes answer count ≤ place count := by
  induction count with
  | zero => exact Nat.le_refl _
  | succ count ih =>
      have step := (keeps.step count).place_le
      have grown
          : passes answer (count + 1)
            = passes answer count + if isLast (answer count) then 0 else 1 := by
        unfold passes
        rw [List.range_succ, List.countP_append, List.countP_singleton]
        cases isLast (answer count) <;> rfl
      omega

/-- No run passes more answers than the text has characters. -/
theorem passes_le (keeps : Keeps text state answer place) (count : Nat)
    : passes answer count ≤ text.length := by
  have bounded := (keeps.isAt count).within
  have := keeps.passes_le_place count
  omega

/-- No run moves back, by induction on the steps between. -/
theorem place_mono (keeps : Keeps text state answer place) {earlier later : Nat}
    (ordered : earlier ≤ later)
    : place earlier ≤ place later := by
  induction ordered with
  | refl => exact Nat.le_refl _
  | step _ ih => exact ih.trans (Nat.le_of_add_right_le (keeps.step _).place_le)

/-- The last answer is repeated for ever, and the lexer stays, by induction on the steps behind it.
-/
theorem eq_of_isLast (keeps : Keeps text state answer place) (run : lexer.IsRun state answer)
    {count later : Nat} (last : isLast (answer count) = true) (ordered : count ≤ later)
    : answer later = answer count ∧ state later = state count := by
  induction ordered with
  | refl => exact ⟨rfl, rfl⟩
  | @step later _ ih =>
      obtain ⟨repeated, same⟩ := ih
      have stays : place (later + 1) = place later :=
        (keeps.step later).eq_of_isLast (repeated ▸ last)
      have there := keeps.isAt (later + 1)
      rw [stays] at there
      have same' : state (later + 1) = state count :=
        ((keeps.isAt later).unique there).trans same
      have step := run.step (later + 1)
      rw [same', run.step] at step
      exact ⟨(Prod.mk.inj (Option.some.inj step)).1.symm, same'⟩

end Keeps

-----------------------------------------------------------------------------------------
-- Tokens of a run
-----------------------------------------------------------------------------------------

/-- The run of a cursor is the run of its lexer. -/
theorem isRun_lexer (cursor : Cursor)
    : cursor.lexer.IsRun (fun count => (cursor.after count).lexer)
        (fun count => (cursor.after count).next.1) where
  start := rfl
  step count := by rw [next_lexer, Cursor.after_succ]

/-- The tokens of a text are taken one after the other up to its end, or to the failure for which it
is refused, by induction on the stream.
-/
theorem tokensAfter_lexer (taken : List Token) (cursor : Cursor)
    : tokensAfter taken cursor.lexer
      = some ((ofCursor cursor).toTokens.map fun tokens => taken ++ tokens) := by
  rw [tokensAfter, next_lexer]
  induction cursor using ofCursor.induct generalizing taken with
  | case1 cursor error behind failed =>
      have stream : ofCursor cursor = .fault error := by
        rw [ofCursor]
        split <;> simp_all
      rw [stream, failed]
      rfl
  | case2 cursor behind ended =>
      have stream : ofCursor cursor = .finish := by
        rw [ofCursor]
        split <;> simp_all
      rw [stream, ended]
      simp [toTokens, Except.map]
  | case3 cursor head behind read ih =>
      have stream : ofCursor cursor = .token head (ofCursor behind) := by
        rw [ofCursor]
        split <;> simp_all
      rw [stream, read]
      simp only
      rw [tokensAfter, next_lexer, ih, toTokens]
      cases (ofCursor behind).toTokens with
      | error error => rfl
      | ok tokens => simp [Except.map]

/-- The tokens of a formula are answered one after the other. Then comes the end of the text, or the
failure for which the formula is refused.
-/
theorem IsRun.exists_tokens {formula : String} (run : (ofFormula formula).IsRun state answer)
    : ∃ tokens : List Token,
        (∀ count < tokens.length, answer count = .ok tokens[count]?)
        ∧ (answer tokens.length = .ok none ∧ tokenize formula = .ok tokens
          ∨ ∃ error,
              answer tokens.length = .error error ∧ tokenize formula = .error error) := by
  have same (count : Nat) := ((isRun_lexer (.ofFormula formula)).unique run count).2
  let stream := ofCursor (Cursor.ofFormula formula)
  obtain ⟨answers, last⟩ := next_after stream.eq_prepend_tokens
  refine ⟨stream.tokens, fun count within => (same count).trans (answers count within), ?_⟩
  rw [same]
  cases ends : stream.fault? with
  | none =>
      have whole := stream.eq_prepend_tokens
      rw [ends] at last whole
      exact .inl ⟨last, toTokens_eq_ok_iff.mpr whole⟩
  | some error =>
      rw [ends] at last
      exact .inr ⟨error, last, toTokens_eq_error_iff.mpr ends⟩

/-- Tokens are no last answers, so there are no more of them than characters. -/
theorem Keeps.length_le (keeps : Keeps text state answer place) {tokens : List Token}
    (answered : ∀ count < tokens.length, answer count = .ok tokens[count]?)
    : tokens.length ≤ text.length := by
  have all : ∀ step ∈ List.range tokens.length, (!isLast (answer step)) = true := by
    intro step member
    have within := List.mem_range.mp member
    rw [answered step within, List.getElem?_eq_getElem within]
    rfl
  have passed : passes answer tokens.length = tokens.length := by
    rw [passes, List.countP_eq_length.mpr all, List.length_range]
  rw [← passed]
  exact keeps.passes_le _

/-- What a run does in a text, its states being in places of the text. -/
structure StaysIn (text : List Char) (state : Nat → Lexer) (answer : Nat → Answer)
    (place : Nat → Nat)
    : Prop where
  isAt : ∀ count, (state count).IsAt text (place count)
  boundary : ∀ count, (state count).pos.IsValid (String.ofList text)
  /-- Only at the start there is no character before. -/
  start : ∀ count, (state count).previous = none ↔ (state count).pos = 0
  forward
    : ∀ earlier later,
        earlier ≤ later
        → place earlier ≤ place later ∧ (state earlier).pos ≤ (state later).pos
  passing
    : ∀ count,
        isLast (answer count) = false
        → place count < place (count + 1) ∧ (state count).pos < (state (count + 1)).pos
  finish : ∀ count, answer count = .ok none → place count = text.length
  last
    : ∀ count,
        isLast (answer count) = true
        → ∀ later ≥ count, answer later = answer count ∧ state later = state count
  refused
    : ∀ count found position previous,
        answer count = .error (.unexpectedChar found position previous)
        → position = place count
          ∧ text[position]? = some found
          ∧ previous = if position = 0 then none else text[position - 1]?
  bound : ∀ count, ((List.range count).countP fun step => !isLast (answer step)) ≤ text.length

/-- A run which keeps its place does all of this. -/
theorem Keeps.staysIn (keeps : Keeps text state answer place) (run : lexer.IsRun state answer)
    : StaysIn text state answer place where
  isAt := keeps.isAt
  boundary count := by
    rw [← (keeps.isAt count).whole]
    exact (keeps.isAt count).boundary
  start count := (keeps.isAt count).previous_eq_none_iff
  forward earlier later ordered :=
    have further := keeps.place_mono ordered
    ⟨further, (keeps.isAt earlier).pos_le (keeps.isAt later) further⟩
  passing count passing := by
    have further := (keeps.step count).place_le
    rw [passing] at further
    exact ⟨further, (keeps.isAt count).pos_lt (keeps.isAt (count + 1)) further⟩
  finish count ended := by
    have step := keeps.step count
    rw [ended] at step
    exact step.place_of_finish
  last count last later ordered := keeps.eq_of_isLast run last ordered
  refused count found position previous refused := by
    have step := keeps.step count
    rw [refused] at step
    obtain ⟨rfl, here, before⟩ := step.unexpectedChar_eq
    exact ⟨rfl, here, before⟩
  bound := keeps.passes_le

end Lexer

/-- The lexer of a formula can be called again and again, whatever it answers, and never crashes. It
is always between two characters of the normal text, with the one before at hand, and never moves
back. Only the end of the text and a character which begins no lexeme are answered without moving
on, and then for ever, the one at the end of the text only, the other with its place and the
character before it. There are at most as many other answers as the text has characters. So the
tokens of the formula are found in the end, or the failure for which it is refused.
-/
theorem run_stays_in_text (formula : String)
    : let text := Text.normalize formula
      let lexer := Lexer.ofFormula formula
      (∃ state answer, lexer.IsRun state answer)
      ∧ (∀ state answer,
          lexer.IsRun state answer
          → ∃ place tokens,
              Lexer.StaysIn text state answer place
              ∧ tokens.length ≤ text.length
              ∧ (∀ count < tokens.length, answer count = .ok tokens[count]?)
              ∧ (answer tokens.length = .ok none ∧ tokenize formula = .ok tokens
                ∨ ∃ error,
                    answer tokens.length = .error error ∧ tokenize formula = .error error))
      ∧ lexer.tokensAfter [] = some (tokenize formula) := by
  intro text lexer
  let cursor := Cursor.ofFormula formula
  have here : lexer.IsAt text 0 := Lexer.isAt_lexer cursor
  refine ⟨⟨_, _, Lexer.isRun_lexer cursor⟩, fun state answer run => ?_, ?_⟩
  · obtain ⟨place, keeps⟩ := run.exists_keeps here
    obtain ⟨tokens, answered, ended⟩ := run.exists_tokens
    exact ⟨place, tokens, keeps.staysIn run, keeps.length_le answered, answered, ended⟩
  · refine (Lexer.tokensAfter_lexer [] cursor).trans (congrArg some ?_)
    change _ = (ofCursor cursor).toTokens
    cases (ofCursor cursor).toTokens <;> rfl

/-- Two lexemes without a token are passed. The character behind them is reported again and
again, with its place counted in characters, although one of those before it has two bytes.
-/
theorem run_stays_in_text_refused
    : ∃ state answer,
        (Lexer.ofFormula "1E+ é%").IsRun state answer
        ∧ answer 0 = .error (.invalidNumeral "1e+")
        ∧ answer 1 = .error (.unknownWord "é")
        ∧ (state 2).pos = ⟨5⟩
        ∧ (state 2).previous = some 'é'
        ∧ ∀ later ≥ 2,
            answer later = .error (.unexpectedChar '%' 4 (some 'é'))
            ∧ state later = state 2 := by
  let cursor := (Cursor.ofFormula "1E+ é%").after
  obtain ⟨⟨state, answer, run⟩, every, _⟩ := run_stays_in_text "1E+ é%"
  have same (count : Nat) := (Lexer.isRun_lexer (.ofFormula "1E+ é%")).unique run count
  have third : answer 2 = .error (.unexpectedChar '%' 4 (some 'é')) :=
    (same 2).2.trans (by decide +kernel)
  have last : Lexer.isLast (answer 2) = true := by
    rw [third]
    rfl
  obtain ⟨_, _, stays, _⟩ := every state answer run
  refine ⟨state, answer, run, (same 0).2.trans ?_, (same 1).2.trans ?_, ?_, ?_, ?_⟩
  · decide +kernel
  · decide +kernel
  · rw [(same 2).1]
    decide +kernel
  · rw [(same 2).1]
    decide +kernel
  · intro later ordered
    obtain ⟨repeated, stayed⟩ := stays.last 2 last later ordered
    exact ⟨repeated.trans third, stayed⟩

end Formulary
