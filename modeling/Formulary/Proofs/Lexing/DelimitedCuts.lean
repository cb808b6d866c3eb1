import Formulary.Proofs.Lexing.FoldedCuts
import Formulary.Proofs.Printing.PrintedTokens

/-! Texts in front of a mark. A lexeme with a token never reaches into the mark which follows
its text, so the tokens of a text are the same wherever it stands between marks.
-/

namespace Formulary

open Text TokenStream

-----------------------------------------------------------------------------------------
-- Lexemes in front of a mark
-----------------------------------------------------------------------------------------

/-- No mark is of a kind which none of the marks is of. -/
theorem not_of_mark {c : Char} (mark : c ∈ markChars) {kind : Char → Bool}
    (none : markChars.any kind = false)
    : ¬kind c = true :=
  List.any_eq_false.mp none c mark

/-- Neither the digits nor the fraction of a numeral hold a mark. -/
theorem Numeral.Written.not_mem_of_mark {numeral : Numeral} (written : numeral.Written) {c : Char}
    (mark : c ∈ markChars)
    : c ∉ numeral.whole ++ numeral.fraction.elim [] Fraction.chars := by
  have noDigit : ¬c.isDigit = true := not_of_mark mark (by decide)
  have noSeparator : c ∉ ['.', ','] := by
    have none : markChars.any (· ∈ ['.', ',']) = false := by decide
    simpa using not_of_mark mark none
  intro member
  rcases List.mem_append.mp member with whole | inFraction
  · exact noDigit (written.whole.2 c whole)
  · cases found : numeral.fraction with
    | none =>
        rw [found] at inFraction
        cases inFraction
    | some part =>
        obtain ⟨marked, digits⟩ := written.fraction part found
        rw [found] at inFraction
        rcases List.mem_cons.mp inFraction with rfl | digit
        · exact noSeparator marked
        · exact noDigit (digits c digit)

/-- Only the power of ten of a numeral holds a mark, which is its sign. In front of the sign
stands a numeral whose power of ten has no digits.
-/
theorem Numeral.Written.bare_of_mark {numeral : Numeral} (written : numeral.Written)
    {front behind : List Char} {c : Char} (mark : c ∈ markChars)
    (split : numeral.chars = front ++ c :: behind)
    : front = chars { numeral with power := some { sign := none, digits := [] } } := by
  have noDigit : ¬c.isDigit = true := not_of_mark mark (by decide)
  have outside := written.not_mem_of_mark mark
  have notE : c ≠ 'e' := by
    rintro rfl
    exact absurd mark (by decide)
  cases power : numeral.power with
  | none =>
      have member : c ∈ numeral.chars := by simp [split]
      rw [chars, power, Option.elim_none, List.append_nil] at member
      exact absurd member outside
  | some part =>
      obtain ⟨_, digits⟩ := written.power part power
      have noneInDigits : c ∉ part.digits := fun member => noDigit (digits c member)
      simp only [chars, power, Option.elim_some, PowerPart.chars] at split ⊢
      generalize numeral.whole ++ numeral.fraction.elim [] Fraction.chars = body at *
      cases signed : part.sign with
      | none =>
          have member : c ∈ body ++ ('e' :: part.sign.toList ++ part.digits) := by
            rw [split]
            simp
          simp [signed, outside, notE, noneInDigits] at member
      | some sign =>
          have split : body ++ ['e'] ++ sign :: part.digits = front ++ c :: behind := by
            simpa [signed] using split
          -- A mark before or behind the sign would be among the other characters.
          rcases List.append_eq_append_iff.mp split with
            ⟨more, front, rest⟩ | ⟨more, front, rest⟩
          · cases more with
            | nil => simpa using front
            | cons first more =>
                obtain ⟨_, rest⟩ := List.cons.inj rest
                exact absurd (by simp [rest]) noneInDigits
          · cases more with
            | nil => simpa using front.symm
            | cons first more =>
                obtain ⟨rfl, _⟩ := List.cons.inj rest
                have member : c ∈ body ++ ['e'] := by simp [front]
                simp [outside, notE] at member

/-- What stands in a lexeme in front of a mark is a numeral whose power of ten has no digits.
-/
theorem IsLexeme.exists_bare {front behind : List Char} {c : Char}
    (isLexeme : IsLexeme (front ++ c :: behind)) (mark : c ∈ markChars) (nonempty : front ≠ [])
    : ∃ numeral : Numeral,
        numeral.Written
        ∧ numeral.power = some { sign := none, digits := [] }
        ∧ front = numeral.chars := by
  have noDigit : ¬c.isDigit = true := not_of_mark mark (by decide)
  have notX : c ≠ 'x' := by
    rintro rfl
    exact absurd mark (by decide)
  generalize whole : front ++ c :: behind = word at isLexeme
  have member : c ∈ word := by simp [← whole]
  cases isLexeme with
  | var all =>
      rcases List.mem_cons.mp member with x | digit
      · exact absurd x notX
      · exact absurd (all c digit) noDigit
  | word isWord =>
      obtain ⟨_, _, _, _, _, letters⟩ := Lexeme.exists_of_isWord isWord
      exact absurd (letters c member) (not_of_mark mark (by decide))
  | @numeral numeral written =>
      let bare : PowerPart := { sign := none, digits := [] }
      have front := written.bare_of_mark mark whole.symm
      have power
          : ∀ part ∈ some bare,
              (∀ sign ∈ part.sign, PowerPart.isSign sign = true)
              ∧ ∀ c ∈ part.digits, c.isDigit = true := by
        simp [bare]
      exact ⟨{ numeral with power := some bare }, ⟨written.whole, written.fraction, power⟩, rfl,
        front⟩
  | mark _ =>
      have short := congrArg List.length whole
      have := List.length_pos_iff.mpr nonempty
      simp only [List.length_append, List.length_cons, List.length_nil] at short
      omega

/-- What denotes a token has a first character. -/
theorem Denotes.ne_nil {word : List Char} {outcome : Except Error Token}
    (denotes : Denotes word outcome)
    : word ≠ [] :=
  Lexeme.chars_ne_nil_of_first? (Lexeme.first?_of_denotes denotes)

/-- A mark behind the text makes no lexeme longer which has a token. -/
theorem Longest.append_delimited {word after rest : List Char} {token : Token}
    (longest : Longest word (word ++ after)) (denotes : Denotes word (.ok token))
    (delimited : Delimited rest)
    : Longest word (word ++ (after ++ rest)) where
  isLexeme := longest.isLexeme
  isPrefix := List.prefix_append _ _
  longest other isLexeme front := by
    rw [← List.append_assoc] at front
    rcases Nat.le_total other.length (word ++ after).length with within | beyond
    · exact longest.longest other isLexeme
        (List.prefix_of_prefix_length_le front (List.prefix_append _ rest) within)
    · obtain ⟨tail, rfl⟩ :=
        List.prefix_of_prefix_length_le (List.prefix_append _ rest) front beyond
      cases tail with
      | nil =>
          rw [List.append_nil] at isLexeme ⊢
          exact longest.longest _ isLexeme List.prefix_rfl
      | cons c behind =>
          have inRest : c :: behind <+: rest := (List.prefix_append_right_inj _).mp front
          obtain ⟨more, rfl⟩ := inRest
          have mark : c ∈ markChars := delimited c rfl
          have nonempty : word ++ after ≠ [] := by simp [denotes.ne_nil]
          -- Only a numeral with a bare power goes on with a mark, and it has no token.
          obtain ⟨numeral, written, power, same⟩ := isLexeme.exists_bare mark nonempty
          have whole := longest.longest _ (.numeral written) (by rw [same])
          rw [← same] at whole
          have ended : after = [] := by
            rw [List.length_append] at whole
            exact List.length_eq_zero_iff.mp (by omega)
          rw [ended, List.append_nil] at same
          have found := Lexeme.first?_of_denotes denotes
          rw [same, Lexeme.first?_of_denotes (.barePower written power rfl)] at found
          cases found

-----------------------------------------------------------------------------------------
-- Cuts in front of a mark
-----------------------------------------------------------------------------------------

/-- A text in front of a mark is cut as it is on its own, by induction on the words. -/
theorem Cuts.append_delimited {text rest more : List Char} {words : List (List Char)}
    {tokens : List Token} (cuts : Cuts text words tokens rest) (delimited : Delimited more)
    : Cuts (text ++ more) words tokens (rest ++ more) := by
  induction cuts with
  | done rest => exact .done _
  | next longest denotes _ ih =>
      rw [List.append_assoc]
      exact .next (longest.append_delimited denotes delimited) denotes ih

/-- What has been cut is written in ASCII, by induction on the words. -/
theorem Cuts.isAscii_flatten {text rest : List Char} {words : List (List Char)}
    {tokens : List Token} (cuts : Cuts text words tokens rest)
    : isAscii words.flatten = true := by
  induction cuts with
  | done rest => rfl
  | next longest denotes _ ih =>
      rcases denotes.isAscii_or with ascii | ⟨_, _, _, failed⟩
      · rw [List.flatten_cons, isAscii_append, ascii, ih]
        rfl
      · cases failed

/-- A formula with tokens is cut into their words. -/
theorem exists_cuts_of_tokenize {formula : String} {tokens : List Token}
    (lexed : tokenize formula = .ok tokens)
    : ∃ words, Cuts (normalize formula) words tokens [] := by
  obtain ⟨words, front, rest, cuts, ends⟩ := exists_cuts (normalize formula)
  have stream := cuts.ofCursor_eq []
  rw [List.append_nil] at stream
  have whole : ofCursor { behind := [], ahead := normalize formula } = prepend tokens .finish :=
    toTokens_eq_ok_iff.mp lexed
  rw [stream] at whole
  rcases ends with rfl | ⟨error, refused⟩
  · rw [ofCursor_nil] at whole
    have same : front = tokens := by simpa using congrArg TokenStream.tokens whole
    exact ⟨words, same ▸ cuts⟩
  · have faults := congrArg TokenStream.fault? whole
    simp [refused.ofCursor_eq, TokenStream.fault?] at faults

-----------------------------------------------------------------------------------------
-- Texts between marks
-----------------------------------------------------------------------------------------

/-- The normal texts of formulas in ASCII can be joined. -/
theorem Text.normalize_append {first second : String} (ascii : isAscii (normalize first) = true)
    (ascii' : isAscii (normalize second) = true)
    : normalize (first ++ second) = normalize first ++ normalize second := by
  have joined : caseless (first ++ second) = caseless first ++ caseless second := by
    simp [caseless]
  have same : SameLetters (normalize first ++ normalize second) (normalize (first ++ second)) := by
    rw [SameLetters, List.map_append, map_medial_normalize, map_medial_normalize,
      map_medial_normalize, joined, List.flatMap_append]
  exact same.eq_of_isAscii (by rw [isAscii_append, ascii, ascii']; rfl)

/-- A mark is its own normal text. -/
theorem Text.normalize_singleton {c : Char} (mark : c ∈ markChars)
    : normalize (String.singleton c) = [c] := by
  have plain : markChars.all isPlain = true := by decide
  have own := @normalize_of_isPlain (String.singleton c)
  rw [String.toList_singleton] at own
  exact own (by simpa using List.all_eq_true.mp plain c mark)

/-- The formula text is read as the tokens wherever it stands in front of a mark or of the end.
Its normal text is in ASCII, so the texts next to it do not change it.
-/
structure Spelled (text : String) (tokens : List Token) : Prop where
  ascii : isAscii (normalize text) = true
  spells : Spells (normalize text) tokens

/-- A formula text on its own has the tokens as which it is read elsewhere. -/
theorem spelled_iff {text : String} {tokens : List Token}
    : Spelled text tokens ↔ tokenize text = .ok tokens := by
  constructor
  · intro spelled
    have read := spelled.spells [] [] delimited_nil
    rw [List.append_nil, ofCursor_nil] at read
    exact toTokens_eq_ok_iff.mpr read
  · intro lexed
    obtain ⟨words, cuts⟩ := exists_cuts_of_tokenize lexed
    have whole : words.flatten = normalize text := by simpa using cuts.flatten_append
    refine ⟨whole ▸ cuts.isAscii_flatten, fun behind rest delimited => ?_⟩
    rw [(cuts.append_delimited delimited).ofCursor_eq, whole, List.nil_append]

namespace Spelled

variable {text : String} {tokens : List Token}

/-- A text can be followed by one which begins with a mark. -/
theorem append {after : String} {others : List Token} (first : Spelled text tokens)
    (second : Spelled after others) (begins : Delimited (normalize after))
    : Spelled (text ++ after) (tokens ++ others) := by
  have joined := normalize_append first.ascii second.ascii
  refine ⟨?_, ?_⟩
  · rw [joined, isAscii_append, first.ascii, second.ascii]
    rfl
  · rw [joined]
    exact first.spells.append second.spells begins

/-- With a mark in front a text begins with the mark. -/
theorem normalize_mark (spelled : Spelled text tokens) {c : Char} (mark : c ∈ markChars)
    : normalize (String.singleton c ++ text) = c :: normalize text := by
  have single := normalize_singleton mark
  have ascii : isAscii (normalize (String.singleton c)) = true := by
    rw [single, isAscii_mark mark]
  rw [normalize_append ascii spelled.ascii, single, List.singleton_append]

/-- A mark can stand in front of every text. -/
theorem mark {c : Char} {token : Token} (mark : Token.ofMark? c = some token)
    (spelled : Spelled text tokens)
    : Spelled (String.singleton c ++ text) (token :: tokens) := by
  have member := Lexeme.mem_markChars_of_ofMark? mark
  have normal := spelled.normalize_mark member
  refine ⟨?_, ?_⟩
  · rw [normal, ← List.singleton_append, isAscii_append, isAscii_mark member, spelled.ascii]
    rfl
  · rw [normal]
    exact spelled.spells.mark mark

/-- Behind a text a mark and another text can follow. -/
theorem append_mark {after : String} {others : List Token} (first : Spelled text tokens)
    {c : Char} {token : Token} (mark : Token.ofMark? c = some token)
    (second : Spelled after others)
    : Spelled (text ++ (String.singleton c ++ after)) (tokens ++ token :: others) := by
  have member := Lexeme.mem_markChars_of_ofMark? mark
  refine first.append (second.mark mark) ?_
  rw [second.normalize_mark member]
  exact delimited_cons member _

/-- Without characters there are no tokens. -/
theorem empty : Spelled "" [] :=
  ⟨rfl, spells_nil⟩

end Spelled

/-- A mark between two texts is a token of its own. In front of it stand the tokens of the first
text, behind it those of the second, whatever the other text is.
-/
theorem tokenize_append_mark {before after : String} {tokens others : List Token}
    (lexed : tokenize before = .ok tokens) (lexed' : tokenize after = .ok others)
    {c : Char} (mark : c ∈ ['+', '-', '*', '/', '^', '(', ')'])
    : ∃ token,
        Token.ofMark? c = some token
        ∧ tokenize (String.singleton c) = .ok [token]
        ∧ tokenize (before ++ String.singleton c ++ after) = .ok (tokens ++ token :: others) := by
  obtain ⟨token, found⟩ := Token.exists_ofMark? mark
  have first := spelled_iff.mpr lexed
  have second := spelled_iff.mpr lexed'
  have alone := spelled_iff.mp (Spelled.empty.mark found)
  rw [String.append_empty] at alone
  have joined := spelled_iff.mp (first.append_mark found second)
  rw [← String.append_assoc] at joined
  exact ⟨token, found, alone, joined⟩

/-- Behind a power of ten with its digits a minus sign is an operator, and blanks do not count. -/
theorem tokenize_append_mark_power
    : tokenize "x2 - 1,E5" = .ok [.var 2, .operator .subtract, .number (.real 100000)]
      ∧ tokenize " 3\tX" = .ok [.number (.integer 3), .var 0]
      ∧ tokenize "x2 - 1,E5- 3\tX"
        = .ok [.var 2, .operator .subtract, .number (.real 100000), .operator .subtract,
            .number (.integer 3), .var 0] := by
  have lexed
      : tokenize "x2 - 1,E5" = .ok [.var 2, .operator .subtract, .number (.real 100000)] := by
    decide +kernel
  have lexed' : tokenize " 3\tX" = .ok [.number (.integer 3), .var 0] := by decide +kernel
  obtain ⟨token, mark, _, joined⟩ := @tokenize_append_mark _ _ _ _ lexed lexed' '-' (by decide)
  cases mark
  exact ⟨lexed, lexed', joined⟩

end Formulary
