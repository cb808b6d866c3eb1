import Formulary.Proofs.Lexing.Lexemes
import Formulary.Proofs.Printing.PrintedText
import Formulary.Proofs.Reading.Failures

/-! The tokens of a printed tree. Where one part of the text ends a mark begins the next, so
the lexemes of the parts are those of the whole, and the first literal without digits ends
the tokens.
-/

namespace Formulary

open Text

theorem Delimited.append {before after : List Char} (first : Delimited before)
    (second : Delimited after)
    : Delimited (before ++ after) := by
  cases before with
  | nil => exact second
  | cons c rest => exact first

theorem ofMark?_leftParen : Token.ofMark? '(' = some .leftParen :=
  rfl

theorem delimited_symbol (op : Operator) (rest : List Char) : Delimited (op.symbol :: rest) :=
  delimited_cons (by cases op <;> decide) rest

theorem delimited_leftParen (rest : List Char) : Delimited ('(' :: rest) :=
  delimited_cons (by decide) rest

theorem delimited_rightParen (rest : List Char) : Delimited (')' :: rest) :=
  delimited_cons (by decide) rest

namespace TokenStream

/-- The text, before a mark or the end, is read as the tokens. -/
def Spells (text : List Char) (tokens : List Token) : Prop :=
  ∀ behind rest,
    Delimited rest
    → ofCursor { behind := behind, ahead := text ++ rest }
      = prepend tokens (ofCursor { behind := text.reverse ++ behind, ahead := rest })

/-- The text, before a mark or the end, has a lexeme without a token. -/
def Misspells (text : List Char) : Prop :=
  ∀ behind rest,
    Delimited rest
    → ∃ error, (ofCursor { behind := behind, ahead := text ++ rest }).fault? = some error

theorem ofCursor_mark {c : Char} {token : Token} (mark : Token.ofMark? c = some token)
    (behind rest : List Char)
    : ofCursor { behind := behind, ahead := c :: rest }
      = .token token (ofCursor { behind := c :: behind, ahead := rest }) :=
  @ofCursor_token { chars := [c], token := .ok token } token rest
    (Lexeme.first?_mark mark rest) rfl behind

theorem spells_nil : Spells [] [] :=
  fun _ _ _ => rfl

/-- A mark may stand in front of anything. -/
theorem Spells.mark {c : Char} {token : Token} {text : List Char} {tokens : List Token}
    (mark : Token.ofMark? c = some token) (spells : Spells text tokens)
    : Spells (c :: text) (token :: tokens) := by
  intro behind rest delimited
  rw [List.cons_append, ofCursor_mark mark, spells _ _ delimited, prepend_cons]
  simp

/-- What ends before a mark can be followed by what begins with one. -/
theorem Spells.append {before after : List Char} {first second : List Token}
    (left : Spells before first) (right : Spells after second) (begins : Delimited after)
    : Spells (before ++ after) (first ++ second) := by
  intro behind rest delimited
  rw [List.append_assoc, left _ _ (begins.append delimited), right _ _ delimited, prepend_append]
  simp

theorem Misspells.mark {c : Char} {token : Token} {text : List Char}
    (mark : Token.ofMark? c = some token) (misspells : Misspells text)
    : Misspells (c :: text) := by
  intro behind rest delimited
  obtain ⟨error, ends⟩ := misspells (c :: behind) rest delimited
  exact ⟨error, by rw [List.cons_append, ofCursor_mark mark]; exact ends⟩

theorem Misspells.append {before : List Char} (misspells : Misspells before) {after : List Char}
    (begins : Delimited after)
    : Misspells (before ++ after) := by
  intro behind rest delimited
  rw [List.append_assoc]
  exact misspells behind _ (begins.append delimited)

theorem Spells.append_misspells {before after : List Char} {tokens : List Token}
    (left : Spells before tokens) (right : Misspells after) (begins : Delimited after)
    : Misspells (before ++ after) := by
  intro behind rest delimited
  obtain ⟨error, ends⟩ := right (before.reverse ++ behind) rest delimited
  exact ⟨error, by
    rw [List.append_assoc, left _ _ (begins.append delimited), fault?_prepend]
    exact ends⟩

/-- A lexeme which is found whole before a mark spells its token. -/
theorem spells_lexeme {lexeme : Lexeme} {token : Token}
    (found
      : ∀ rest, Delimited rest → Lexeme.first? (lexeme.chars ++ rest) = some lexeme)
    (valid : lexeme.token = .ok token)
    : Spells lexeme.chars [token] :=
  fun behind rest delimited => ofCursor_token (found rest delimited) valid behind

theorem misspells_lexeme {lexeme : Lexeme} {error : Error}
    (found
      : ∀ rest, Delimited rest → Lexeme.first? (lexeme.chars ++ rest) = some lexeme)
    (invalid : lexeme.token = .error error)
    : Misspells lexeme.chars := by
  intro behind rest delimited
  exact ⟨error, by rw [ofCursor_fault (found rest delimited) invalid]; rfl⟩

theorem spells_word {word : List Char} {token : Token} (whole : Lexeme.isWord word = true)
    (known : Token.ofWord? (String.ofList word) = some token)
    : Spells word [token] := by
  have valid : (Lexeme.ofWord word).token = .ok token := by simp [Lexeme.ofWord, known]
  exact spells_lexeme (fun _ => Lexeme.first?_word whole) valid

theorem misspells_word {word : List Char} (whole : Lexeme.isWord word = true)
    (unknown : Token.ofWord? (String.ofList word) = none)
    : Misspells word := by
  have invalid : (Lexeme.ofWord word).token = .error (.unknownWord (String.ofList word)) := by
    simp [Lexeme.ofWord, unknown]
  exact misspells_lexeme (fun _ => Lexeme.first?_word whole) invalid

end TokenStream

namespace Number

open TokenStream

theorem spells_numeral {number : Number} (finite : number.isFinite = true)
    : Spells number.numeral.chars [.number number.magnitude] := by
  have valid : (Lexeme.ofNumeral number.numeral).token = .ok (.number number.magnitude) := by
    simp [Lexeme.ofNumeral, ofNumeral?_numeral finite]
  have standard := standard_numeral number
  exact spells_lexeme
    (fun _ delimited => Lexeme.first?_numeral standard.written (standard.endsBefore delimited))
    valid

/-- The words for what is not finite are not known. -/
theorem misspells_text {number : Number} (infinite : ¬number.isFinite = true)
    : Misspells (normalize number.text) := by
  have nan : Misspells "nan".toList := misspells_word (by decide +kernel) (by decide +kernel)
  have inf : Misspells "inf".toList := misspells_word (by decide +kernel) (by decide +kernel)
  rcases text_of_not_isFinite infinite with word | word | word <;> rw [word]
  · have normal : normalize "NaN" = "nan".toList := by decide +kernel
    rwa [normal]
  · have normal : normalize "inf" = "inf".toList := by decide +kernel
    rwa [normal]
  · have normal : normalize "-inf" = '-' :: "inf".toList := by decide +kernel
    rw [normal]
    exact inf.mark rfl

end Number

theorem ElementaryFunction.spells_name (function : ElementaryFunction)
    : TokenStream.Spells function.name.toList [.function function] :=
  TokenStream.spells_word (Lexeme.isWord_function function)
    (by rw [String.ofList_toList, Token.ofWord?_function])

theorem NamedConstant.spells_name (name : NamedConstant)
    : TokenStream.Spells name.name.toList [.constant name] :=
  TokenStream.spells_word (Lexeme.isWord_constant name)
    (by rw [String.ofList_toList, Token.ofWord?_constant])

/-- The operator with the same character as the sign. -/
def Sign.operator : Sign → Operator
  | plus => .add
  | minus => .subtract

theorem Sign.ofMark?_symbol (sign : Sign)
    : Token.ofMark? sign.symbol = some (.operator sign.operator) := by
  cases sign <;> rfl

namespace Expr

open TokenStream

/-- The tokens of the text of the tree. -/
def tokens : Expr → List Token
  | number value =>
      if value.isNegative then [.operator .subtract, .number value.magnitude]
      else [.number value]
  | var index => [.var index]
  | constant name => [.constant name, .leftParen, .rightParen]
  | signed sign operand => .operator sign.operator :: operand.tokens
  | binary op left right =>
      .leftParen :: (left.tokens ++ .operator op :: (right.tokens ++ [.rightParen]))
  | call function argument =>
      .function function :: .leftParen :: (argument.tokens ++ [.rightParen])

/-- Every literal of the tree is a finite number. -/
def IsFinite (expr : Expr) : Prop :=
  ∀ value, number value ∈ expr.nodes → value.isFinite = true

theorem isFinite_number {value : Number}
    : (number value).IsFinite ↔ value.isFinite = true := by
  simp [IsFinite, nodes]

theorem isFinite_signed {sign : Sign} {operand : Expr}
    : (signed sign operand).IsFinite ↔ operand.IsFinite := by
  simp [IsFinite, nodes]

theorem isFinite_binary {op : Operator} {left right : Expr}
    : (binary op left right).IsFinite ↔ left.IsFinite ∧ right.IsFinite := by
  simp [IsFinite, nodes, or_imp, forall_and]

theorem isFinite_call {function : ElementaryFunction} {argument : Expr}
    : (call function argument).IsFinite ↔ argument.IsFinite := by
  simp [IsFinite, nodes]

/-- The text of a tree of finite numbers is read as its tokens, by induction on the tree. -/
theorem spells_text {expr : Expr} (finite : expr.IsFinite)
    : Spells (normalize expr.text) expr.tokens := by
  have close {text : List Char} {tokens : List Token} (spells : Spells text tokens)
      : Spells (text ++ [')']) (tokens ++ [.rightParen]) :=
    spells.append (spells_nil.mark rfl) (delimited_rightParen [])
  induction expr with
  | number value =>
      have bounded : value.isFinite = true := isFinite_number.mp finite
      have numeral := Number.spells_numeral bounded
      -- The minus sign of a negative literal is a token of its own.
      rw [text, normalize_of_isPlain (Number.isPlain_text bounded), Number.toList_text bounded]
      cases sign : value.isNegative with
      | false =>
          rw [Number.magnitude_of_not_isNegative bounded sign] at numeral
          simpa [tokens, sign] using numeral
      | true =>
          have signed := numeral.mark (Token.ofMark?_symbol .subtract)
          simpa [tokens, sign, Operator.symbol] using signed
  | var index =>
      rw [normalize_var]
      exact @spells_lexeme
        { chars := 'x' :: Nat.toDigits 10 index.toNat, token := .ok (.var index) } (.var index)
        (fun _ delimited => Lexeme.first?_var index delimited.stops_isDigit) rfl
  | constant name =>
      rw [normalize_constant]
      exact name.spells_name.append ((spells_nil.mark rfl).mark rfl)
        (delimited_leftParen _)
  | signed sign operand ih =>
      rw [normalize_signed]
      exact (ih (isFinite_signed.mp finite)).mark sign.ofMark?_symbol
  | binary op left right leftIh rightIh =>
      obtain ⟨leftFinite, rightFinite⟩ := isFinite_binary.mp finite
      have last := (close (rightIh rightFinite)).mark (Token.ofMark?_symbol op)
      rw [normalize_binary]
      exact ((leftIh leftFinite).append last (delimited_symbol op _)).mark rfl
  | call function argument ih =>
      have parens := (close (ih (isFinite_call.mp finite))).mark ofMark?_leftParen
      rw [normalize_call]
      exact function.spells_name.append parens (delimited_leftParen _)

/-- A literal which is not finite spoils the text of the tree, by induction on the tree. -/
theorem misspells_text {expr : Expr} (infinite : ¬expr.IsFinite)
    : Misspells (normalize expr.text) := by
  have close {text : List Char} (misspells : Misspells text) : Misspells (text ++ [')']) :=
    misspells.append (delimited_rightParen [])
  induction expr with
  | number value =>
      exact Number.misspells_text fun finite => infinite (isFinite_number.mpr finite)
  | var index => exact absurd (by simp [IsFinite, nodes]) infinite
  | constant name => exact absurd (by simp [IsFinite, nodes]) infinite
  | signed sign operand ih =>
      rw [normalize_signed]
      exact (ih fun finite => infinite (isFinite_signed.mpr finite)).mark sign.ofMark?_symbol
  | binary op left right leftIh rightIh =>
      rw [normalize_binary]
      by_cases finite : left.IsFinite
      · -- The left side is read, and the failure is on the right.
        have rightInfinite : ¬right.IsFinite := fun finite' =>
          infinite (isFinite_binary.mpr ⟨finite, finite'⟩)
        have last := (close (rightIh rightInfinite)).mark (Token.ofMark?_symbol op)
        exact ((spells_text finite).append_misspells last (delimited_symbol op _)).mark rfl
      · exact ((leftIh finite).append (delimited_symbol op _)).mark rfl
  | call function argument ih =>
      have inner := close (ih fun finite => infinite (isFinite_call.mpr finite))
      have parens := inner.mark ofMark?_leftParen
      rw [normalize_call]
      exact function.spells_name.append_misspells parens (delimited_leftParen _)

/-- The text of a tree has tokens exactly if every literal is finite. -/
theorem tokenize_text {expr : Expr} (finite : expr.IsFinite)
    : tokenize expr.text = .ok expr.tokens := by
  have read := spells_text finite [] [] delimited_nil
  rw [List.append_nil, ofCursor_nil] at read
  exact toTokens_eq_ok_iff.mpr read

theorem tokenize_text_of_not_isFinite {expr : Expr} (infinite : ¬expr.IsFinite)
    : ∃ error, tokenize expr.text = .error error := by
  obtain ⟨error, ends⟩ := misspells_text infinite [] [] delimited_nil
  rw [List.append_nil] at ends
  exact ⟨error, toTokens_eq_error_iff.mpr ends⟩

end Expr

end Formulary
