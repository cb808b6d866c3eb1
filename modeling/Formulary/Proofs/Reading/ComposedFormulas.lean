import Formulary.Proofs.Lexing.DelimitedCuts
import Formulary.Proofs.Printing.PrintedTrees

/-! Formulas composed of formula texts. A text in parentheses is read as the same tree wherever
it stands, so texts can be joined by an operator, or put behind a sign or the name of a function,
as their trees are. Only the two limits are nearer for the whole than for its parts.
-/

namespace Formulary

open TokenStream

-----------------------------------------------------------------------------------------
-- Texts of derived trees
-----------------------------------------------------------------------------------------

/-- The tokens of the text derive the tree, with the factors nested so deeply. -/
def DerivesText (category : Category) (text : String) (expr : Expr) (nesting : Nat) : Prop :=
  ∃ tokens, Spelled text tokens ∧ Derives category tokens expr nesting

/-- Behind a text a parenthesis can be closed. -/
theorem Spelled.close {text : String} {tokens : List Token} (spelled : Spelled text tokens)
    : Spelled (text ++ ")") (tokens ++ [.rightParen]) := by
  have mark : Token.ofMark? ')' = some .rightParen := rfl
  exact spelled.append_mark mark .empty

/-- The parenthesis in front is a mark, and the text closed by the other one is behind it. -/
theorem parens_eq (text : String)
    : "(" ++ text ++ ")" = String.singleton '(' ++ (text ++ ")") :=
  String.append_assoc

namespace DerivesText

variable {text : String} {expr : Expr} {nesting : Nat}

/-- An expression in parentheses is a factor. -/
theorem parens (inner : DerivesText (.chain .additive) text expr nesting)
    : DerivesText .factor ("(" ++ text ++ ")") expr (nesting + 1) := by
  obtain ⟨tokens, spelled, derived⟩ := inner
  refine ⟨_, ?_, .parens derived⟩
  rw [parens_eq]
  exact spelled.close.mark ofMark?_leftParen

/-- A sign can stand in front of a factor. -/
theorem signed (sign : Sign) (operand : DerivesText .factor text expr nesting)
    : DerivesText .factor (String.singleton sign.symbol ++ text) (.signed sign expr)
        (nesting + 1) := by
  obtain ⟨tokens, spelled, derived⟩ := operand
  exact ⟨_, spelled.mark sign.ofMark?_symbol, .signed (Expr.isSign_operator sign) derived⟩

/-- The name of a function, in any case and with any blanks, can stand in front of an expression
in parentheses.
-/
theorem call {name : ElementaryFunction} {word : String}
    (spelling : Text.normalize word = name.name.toList)
    (inner : DerivesText (.chain .additive) text expr nesting)
    : DerivesText .factor (word ++ ("(" ++ text ++ ")")) (.call name expr) (nesting + 2) := by
  obtain ⟨tokens, spelled, derived⟩ := inner
  have named : Spelled word [.function name] := by
    refine ⟨?_, ?_⟩
    · rw [spelling, isAscii_function]
    · rw [spelling]
      exact name.spells_name
  refine ⟨_, ?_, .call (.parens derived)⟩
  rw [parens_eq]
  exact named.append_mark ofMark?_leftParen spelled.close

/-- Two factors can be joined by every operator. -/
theorem join {other : String} {right : Expr} {inner : Nat} (op : Operator)
    (first : DerivesText .factor text expr nesting) (last : DerivesText .factor other right inner)
    : DerivesText (.chain .additive) (text ++ String.singleton op.symbol ++ other)
        (.binary op expr right) (max nesting inner) := by
  obtain ⟨before, spelled, derived⟩ := first
  obtain ⟨after, spelled', derived'⟩ := last
  have joined :=
    @Derives.join op _ _ _ _ _ _ (derived.chain_of_factor _) (derived'.operand_of_factor _)
  refine ⟨_, ?_, joined.additive_of_chain⟩
  rw [String.append_assoc]
  exact spelled.append_mark (Token.ofMark?_symbol op) spelled'

/-- A factor alone is an expression. -/
theorem single (factor : DerivesText .factor text expr nesting)
    : DerivesText (.chain .additive) text expr nesting := by
  obtain ⟨tokens, spelled, derived⟩ := factor
  exact ⟨tokens, spelled, derived.chain_of_factor _⟩

end DerivesText

-----------------------------------------------------------------------------------------
-- Reading texts of derived trees
-----------------------------------------------------------------------------------------

namespace Formula

/-- The text can be read with room for so many nested factors, and not with less. -/
def NeedsRoom (text : String) (nesting : Nat) : Prop :=
  ∀ room,
    (∃ result,
        Reader.expression (Reader.factor room) (ofCursor (Cursor.ofFormula text)) = .ok result)
      ↔ nesting ≤ room

/-- A text is read as the tree which its tokens derive, within both limits. -/
theorem parse_of_derivesText {text : String} {expr : Expr} {nesting : Nat}
    (derived : DerivesText (.chain .additive) text expr nesting)
    : parse text
      = if nesting ≤ 256 ∧ expr.height ≤ 256 then .ok (ofExpr expr)
        else .error (.nestingTooDeep 256) := by
  obtain ⟨tokens, spelled, derived⟩ := derived
  have lexed := spelled_iff.mp spelled
  split
  · rename_i within
    exact parse_eq_ok_iff.mpr ⟨tokens, nesting, lexed, derived, within.1, within.2, rfl⟩
  · rename_i beyond
    exact parse_of_not_le lexed derived beyond

/-- The nesting of a derivation is the room which the reader needs, if the tree is low enough.
-/
theorem needsRoom_of_derivesText {text : String} {expr : Expr} {nesting : Nat}
    (derived : DerivesText (.chain .additive) text expr nesting)
    (low : expr.height ≤ maxNesting)
    : NeedsRoom text nesting := by
  obtain ⟨tokens, spelled, derived⟩ := derived
  intro room
  have closed : finish.Closes (.chain .additive) := closes_of_no_operator (by simp) _
  rw [toTokens_eq_ok_iff.mp (spelled_iff.mp spelled), Reader.expression_factor,
    (Reader.reads_of_derives derived).whole room settle_finish closed]
  by_cases nested : nesting ≤ room
  · simp [Operand.fitting_of_le nested low, nested]
  · rw [Operand.fitting_of_not_le expr fun fits => nested fits.1]
    simp [nested]

/-- The tokens of a formula derive its tree. -/
theorem exists_derivesText {text : String} {formula : Formula}
    (read : parse text = .ok formula)
    : ∃ nesting,
        DerivesText (.chain .additive) text formula.expr nesting
        ∧ NeedsRoom text nesting
        ∧ formula.vars = formula.expr.vars := by
  obtain ⟨tokens, nesting, lexed, derived, _, low, whole⟩ := parse_eq_ok_iff.mp read
  have derivesText : DerivesText (.chain .additive) text formula.expr nesting :=
    ⟨tokens, spelled_iff.mpr lexed, derived⟩
  exact ⟨nesting, derivesText, needsRoom_of_derivesText derivesText low,
    congrArg Formula.vars whole⟩

/-- Two formula texts in parentheses are read as the operation on their trees, with the
variables of both. Behind a sign or the name of a function, in any case, the text in parentheses
is read as the one node over its tree, and alone as its tree, with the same variables. Either way
the nesting of the factors and the height of the tree decide whether the whole is too deep, the
nesting of each text being the room which the reader needs for it.
-/
theorem parse_composed {text text' : String} {formula formula' : Formula}
    (read : parse text = .ok formula) (read' : parse text' = .ok formula')
    : ∃ nesting nesting',
        let height := formula.expr.height
        let height' := formula'.expr.height
        NeedsRoom text nesting
        ∧ NeedsRoom text' nesting'
        ∧ (∀ op : Operator,
            parse ("(" ++ text ++ ")" ++ String.singleton op.symbol ++ "(" ++ text' ++ ")")
            = if max nesting nesting' ≤ 255 ∧ max height height' ≤ 255 then
                .ok {
                  expr := .binary op formula.expr formula'.expr
                  vars := formula.vars.union formula'.vars
                }
              else .error (.nestingTooDeep 256))
        ∧ (∀ (name : ElementaryFunction) (word : String),
            Text.normalize word = name.name.toList
            → parse (word ++ "(" ++ text ++ ")")
              = if nesting ≤ 254 ∧ height ≤ 255 then
                  .ok { expr := .call name formula.expr, vars := formula.vars }
                else .error (.nestingTooDeep 256))
        ∧ (∀ sign : Sign,
            parse (String.singleton sign.symbol ++ "(" ++ text ++ ")")
            = if nesting ≤ 254 ∧ height ≤ 255 then
                .ok { expr := .signed sign formula.expr, vars := formula.vars }
              else .error (.nestingTooDeep 256))
        ∧ parse ("(" ++ text ++ ")")
          = if nesting ≤ 255 then .ok formula else .error (.nestingTooDeep 256) := by
  obtain ⟨nesting, derived, needs, vars⟩ := exists_derivesText read
  obtain ⟨nesting', derived', needs', vars'⟩ := exists_derivesText read'
  have whole : formula = ofExpr formula.expr := by rw [ofExpr, ← vars]
  refine ⟨nesting, nesting', needs, needs', fun op => ?_, fun name word spelling => ?_,
    fun sign => ?_, ?_⟩
  · have joined := parse_of_derivesText (derived.parens.join op derived'.parens)
    simp only [← String.append_assoc] at joined
    rw [joined, vars, vars', ← Expr.vars_binary op]
    exact if_congr (by simp only [Expr.height]; omega) rfl rfl
  · have called := parse_of_derivesText (derived.call spelling).single
    simp only [← String.append_assoc] at called
    rw [called, vars, ← Expr.vars_call name]
    exact if_congr (by simp only [Expr.height]; omega) rfl rfl
  · have negated := parse_of_derivesText (derived.parens.signed sign).single
    simp only [← String.append_assoc] at negated
    rw [negated, vars, ← Expr.vars_signed sign]
    exact if_congr (by simp only [Expr.height]; omega) rfl rfl
  · have low : formula.expr.height ≤ 256 := by
      obtain ⟨_, _, _, _, _, low, _⟩ := parse_eq_ok_iff.mp read
      exact low
    rw [parse_of_derivesText derived.parens.single, ← whole]
    exact if_congr (by omega) rfl rfl

/-- A number with a sign in its power of ten is joined to another text by that sign, and goes
behind the name of a function.
-/
theorem parse_composed_signed_power
    : let number := Expr.number (.real 2000)
      let power := Expr.binary .power (.var 1) (.var 0)
      parse "2E+3" = .ok { expr := number, vars := .empty }
      ∧ parse "x1^X" = .ok { expr := power, vars := .ofList [0, 1] }
      ∧ parse "(2E+3)+(x1^X)" = .ok { expr := .binary .add number power, vars := .ofList [0, 1] }
      ∧ parse "sq\tRt(2E+3)" = .ok { expr := .call .sqrt number, vars := .empty } := by
  intro number power
  have read : parse "2E+3" = .ok { expr := number, vars := .empty } := by decide +kernel
  have read' : parse "x1^X" = .ok { expr := power, vars := .ofList [0, 1] } := by decide +kernel
  obtain ⟨nesting, nesting', needs, needs', joined, called, _⟩ := parse_composed read read'
  have succeeds {α : Type} {outcome : Except Error α} (ok : outcome.toBool = true)
      : ∃ value, outcome = .ok value := by
    cases outcome with
    | error error => cases ok
    | ok value => exact ⟨value, rfl⟩
  have shallow : nesting ≤ 1 := (needs 1).mp (succeeds (by decide +kernel))
  have shallow' : nesting' ≤ 1 := (needs' 1).mp (succeeds (by decide +kernel))
  have spelling : Text.normalize "sq\tRt" = ElementaryFunction.sqrt.name.toList := by
    decide +kernel
  have sum := joined .add
  have root := called .sqrt "sq\tRt" spelling
  rw [if_pos ⟨by omega, by decide⟩] at sum root
  exact ⟨read, read', sum, root⟩

end Formula

end Formulary
