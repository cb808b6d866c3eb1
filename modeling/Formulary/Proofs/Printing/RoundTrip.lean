import Formulary.Proofs.Printing.PrintedTrees

/-! Reading printed trees. Exactly the trees of finite literals whose text is not nested too
deeply are read back, with the same variables and values, and trees which were read before
are read back unchanged.
-/

namespace Formulary

namespace Number

/-- What a numeral denotes carries no minus sign. -/
theorem isNegative_of_ofNumeral? {numeral : Numeral} {number : Number}
    (denotes : ofNumeral? numeral = some number)
    : number.isNegative = false := by
  unfold ofNumeral? at denotes
  split at denotes
  · cases denotes
  · simp only at denotes
    split at denotes
    · rename_i fits
      cases denotes
      have small : numeral.toDecimal.coefficient < 2 ^ 63 := by
        simp only [Bool.and_eq_true, decide_eq_true_eq] at fits
        exact fits.2
      simp [isNegative, Int64.lt_iff_toInt_lt, Int64.toInt_ofNat_of_lt small]
    · cases denotes
      exact Binary64.isNegative_ofIndex (Decimal.index_le_infinity _)

end Number

/-- What denotes a number is a numeral which has it. -/
theorem Denotes.exists_ofNumeral? {word : List Char} {value : Number}
    (denotes : Denotes word (.ok (.number value)))
    : ∃ numeral, Number.ofNumeral? numeral = some value := by
  cases denotes with
  | integer written whole fits => exact ⟨_, Number.ofNumeral?_of_isWhole written whole fits⟩
  | real written complete wide =>
      exact ⟨_, Number.ofNumeral?_of_complete written complete wide⟩

/-- A number is only read where a numeral has it. -/
theorem Cursor.exists_numeral {cursor behind : Cursor} {value : Number}
    (read : cursor.next = (.ok (some (.number value)), behind))
    : ∃ numeral, Number.ofNumeral? numeral = some value := by
  obtain ⟨_, _, denotes⟩ := exists_longest_of_next read
  exact denotes.exists_ofNumeral?

/-- Every number among the tokens is denoted by a numeral, by induction on the tokens. -/
theorem TokenStream.exists_numeral {cursor : Cursor} {tokens : List Token} {rest : TokenStream}
    (read : ofCursor cursor = prepend tokens rest) {value : Number}
    (member : .number value ∈ tokens)
    : ∃ numeral, Number.ofNumeral? numeral = some value := by
  induction tokens generalizing cursor with
  | nil => cases member
  | cons head tokens ih =>
      rw [ofCursor] at read
      split at read
      · cases read
      · cases read
      · rename_i found behind next
        obtain ⟨rfl, later⟩ := token.inj read
        rcases List.mem_cons.mp member with rfl | further
        · exact Cursor.exists_numeral next
        · exact ih later further

/-- The literals of a tree are among the tokens it is derived from. -/
theorem Derives.number_mem {category : Category} {tokens : List Token} {expr : Expr}
    {nesting : Nat} (derived : Derives category tokens expr nesting) {value : Number}
    (member : .number value ∈ expr.nodes)
    : .number value ∈ tokens := by
  induction derived with
  | number value' => simpa [Expr.nodes] using member
  | var index => simp [Expr.nodes] at member
  | constant name => simp [Expr.nodes] at member
  | @signed op sign tokens operand nesting isSign _ ih =>
      have inside : .number value ∈ operand.nodes := by simpa [Expr.nodes] using member
      exact List.mem_cons_of_mem _ (ih inside)
  | @call name tokens argument nesting _ ih =>
      have inside : .number value ∈ argument.nodes := by simpa [Expr.nodes] using member
      exact List.mem_cons_of_mem _ (ih inside)
  | parens inner ih => exact List.mem_append_left _ (List.mem_cons_of_mem _ (ih member))
  | single operand ih => exact ih member
  | @join op before after left right outer inner first last firstIh lastIh =>
      have sides : .number value ∈ left.nodes ∨ .number value ∈ right.nodes := by
        simpa [Expr.nodes] using member
      rcases sides with left | right
      · exact List.mem_append_left _ (firstIh left)
      · exact List.mem_append_right _ (List.mem_cons_of_mem _ (lastIh right))

namespace Expr

/-- Without negative literals there is nothing to spell out. -/
theorem spelledOut_eq_self {expr : Expr}
    (unsigned : ∀ value, number value ∈ expr.nodes → value.isNegative = false)
    : expr.spelledOut = expr := by
  induction expr with
  | number value => simp [spelledOut, unsigned value (by simp [nodes])]
  | var index => rfl
  | constant name => rfl
  | signed sign operand ih =>
      rw [spelledOut, ih fun value member => unsigned value (List.mem_cons_of_mem _ member)]
  | binary op left right leftIh rightIh =>
      rw [spelledOut,
        leftIh fun value member => unsigned value (by simp [nodes, member]),
        rightIh fun value member => unsigned value (by simp [nodes, member])]
  | call function argument ih =>
      rw [spelledOut, ih fun value member => unsigned value (List.mem_cons_of_mem _ member)]

end Expr

namespace Formula

/-- A tree which was read has nothing to spell out. -/
theorem spelledOut_of_parse {source : String} {formula : Formula}
    (read : parse source = .ok formula)
    : formula.expr.spelledOut = formula.expr := by
  obtain ⟨tokens, nesting, lexed, derived, _⟩ := parse_eq_ok_iff.mp read
  apply Expr.spelledOut_eq_self
  intro value member
  obtain ⟨numeral, denotes⟩ :=
    TokenStream.exists_numeral (TokenStream.toTokens_eq_ok_iff.mp lexed)
      (derived.number_mem member)
  exact Number.isNegative_of_ofNumeral? denotes

/-- The text of a tree is a formula exactly if every literal is finite and the text is not
nested too deeply, and then the formula is the tree spelled out.
-/
theorem parse_text_eq_ok_iff {expr : Expr} {formula : Formula}
    : parse expr.text = .ok formula
      ↔ expr.IsFinite ∧ expr.printedDepth ≤ maxNesting ∧ formula = ofExpr expr.spelledOut := by
  by_cases finite : expr.IsFinite
  · have lexed := Expr.tokenize_text finite
    have derived := expr.derives_tokens.chain_of_factor .additive
    have low := expr.height_spelledOut_le
    rw [parse_eq_ok_iff]
    constructor
    · rintro ⟨tokens, nesting, lexed', derived', nested, _, whole⟩
      rw [lexed] at lexed'
      cases lexed'
      -- The text has no other tree and no other nesting.
      obtain ⟨same, rfl⟩ := derived'.unique derived
      rw [same] at whole
      exact ⟨finite, nested, whole⟩
    · rintro ⟨_, nested, rfl⟩
      exact ⟨expr.tokens, expr.printedDepth, lexed, derived, nested,
        Nat.le_trans low nested, rfl⟩
  · constructor
    · intro read
      obtain ⟨error, failed⟩ := Expr.tokenize_text_of_not_isFinite finite
      obtain ⟨tokens, nesting, lexed, _⟩ := parse_eq_ok_iff.mp read
      rw [failed] at lexed
      cases lexed
    · rintro ⟨finite', _⟩
      exact absurd finite' finite

/-- Printing a tree and reading the text back keeps what the tree means. The text is a
formula exactly if every real literal is finite and the factors of the text nest at most 256
deep. It is then read as the tree with a sign in front of the magnitude for each negative
literal, has the same variables, and has the same value under every assignment. A formula
whose tree is printed is read back unchanged.
-/
theorem parse_text_round_trip (expr : Expr)
    : ((∃ formula, parse expr.text = .ok formula)
        ↔ (∀ value, .number (.real value) ∈ expr.nodes → value.isFinite = true)
          ∧ expr.printedDepth ≤ 256)
      ∧ ∀ formula,
          parse expr.text = .ok formula
          → formula.expr = expr.spelledOut
            ∧ formula.vars = expr.vars
            ∧ (∀ assignment, formula.expr.eval assignment = expr.eval assignment)
            ∧ ∀ source original,
                parse source = .ok original
                → original.expr = expr
                → formula = original := by
  have literals
      : expr.IsFinite
        ↔ ∀ value, .number (.real value) ∈ expr.nodes → value.isFinite = true := by
    constructor
    · exact fun finite value member => finite (.real value) member
    · intro finite value member
      cases value with
      | integer value => rfl
      | real value => exact finite value member
  constructor
  · constructor
    · rintro ⟨formula, read⟩
      obtain ⟨finite, nested, _⟩ := parse_text_eq_ok_iff.mp read
      exact ⟨literals.mp finite, nested⟩
    · rintro ⟨finite, nested⟩
      exact ⟨_, parse_text_eq_ok_iff.mpr ⟨literals.mpr finite, nested, rfl⟩⟩
  · intro formula read
    obtain ⟨finite, _, rfl⟩ := parse_text_eq_ok_iff.mp read
    refine ⟨rfl, expr.vars_spelledOut, Expr.eval_spelledOut finite, ?_⟩
    rintro source original readBefore rfl
    obtain ⟨_, _, _, _, _, _, whole⟩ := parse_eq_ok_iff.mp readBefore
    rw [spelledOut_of_parse readBefore, ← whole]

/-- Negative zero and the least integer come back as signs in front of their magnitudes. -/
theorem parse_text_round_trip_negative_literals
    : ∃ formula,
        parse "(-0.0 ^ -9223372036854775808)" = .ok formula
        ∧ formula.expr
          = .binary .power (.signed .minus (.number (.real 0)))
              (.signed .minus (.number (.real 9223372036854775808))) := by
  have printed
      : Expr.text
          (.binary .power (.number (.real (-0))) (.number (.integer Int64.minValue)))
        = "(-0.0 ^ -9223372036854775808)" := by
    decide +kernel
  obtain ⟨accepts, keeps⟩ :=
    parse_text_round_trip
      (.binary .power (.number (.real (-0))) (.number (.integer Int64.minValue)))
  rw [printed] at accepts keeps
  have finite
      : ∀ value,
          .number (.real value)
            ∈ (Expr.binary .power (.number (.real (-0))) (.number (.integer Int64.minValue))).nodes
          → value.isFinite = true := by
    intro value member
    have zero : value = -0 := by simpa [Expr.nodes] using member
    rw [zero]
    decide +kernel
  obtain ⟨formula, read⟩ := accepts.mpr ⟨finite, by decide +kernel⟩
  refine ⟨formula, read, (keeps formula read).1.trans ?_⟩
  decide +kernel

end Formula

end Formulary
