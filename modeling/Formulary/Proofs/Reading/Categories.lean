import Formulary.Grammar
import Formulary.Proofs.Outcomes
import Formulary.Proofs.Reading.TokenPrefix
import Formulary.Reader

/-! The readers by category, and the streams at which what has been read ends. A chain
goes on as long as an operator of its own precedence follows, and its operands as long as
one which binds more tightly does.
-/

namespace Formulary

namespace Reader

/-- The reader for a category, with room for so many factors. -/
def ofCategory (room : Nat) : Category → Reader Operand
  | .factor => factor room
  | .chain .exponential => chain .exponential (factor room)
  | .chain .multiplicative => chain .multiplicative (chain .exponential (factor room))
  | .chain .additive =>
      chain .additive (chain .multiplicative (chain .exponential (factor room)))

/-- A chain is read from the operands of its precedence. -/
theorem ofCategory_chain (room : Nat) (level : Precedence)
    : ofCategory room (.chain level) = chain level (ofCategory room level.operands) := by
  cases level <;> rfl

/-- An expression is a chain of the loosest precedence. -/
theorem expression_factor (room : Nat)
    : expression (factor room) = ofCategory room (.chain .additive) :=
  rfl

/-- An expression is read exactly if a chain of the loosest precedence is. -/
theorem expression_eq_ok {room : Nat} {stream rest : TokenStream} {operand : Operand}
    : expression (factor room) stream = .ok (operand, rest)
      ↔ ofCategory room (.chain .additive) stream = .ok (operand, rest) :=
  Iff.rfl

/-- An operator of the precedence stands at the front of the stream. -/
theorem operator?_eq_some {level : Precedence} {stream rest : TokenStream} {op : Operator}
    : operator? level stream = some (op, rest)
      ↔ op.precedence = level ∧ stream = .token (.operator op) rest := by
  unfold operator?
  split
  · rename_i front tail
    split <;> grind
  · rename_i other
    constructor
    · intro impossible
      cases impossible
    · rintro ⟨_, rfl⟩
      exact absurd rfl (other op rest)

/-- An operator is found at its own precedence. -/
theorem operator?_operator (op : Operator) (rest : TokenStream)
    : operator? op.precedence (.token (.operator op) rest) = some (op, rest) :=
  operator?_eq_some.mpr ⟨rfl, rfl⟩

/-- Reading a chain on from a tree, where an operator of its precedence follows, takes the
operator and one operand and goes on from the operation.
-/
theorem chainFrom_operator (operand : Reader Operand) (op : Operator) (left : Operand)
    (rest : TokenStream)
    : chainFrom op.precedence operand left (.token (.operator op) rest)
      = (do
          let rest ← rest.settle
          let (right, rest) ← operand rest
          let tree ← left.join op right
          chainFrom op.precedence operand tree rest) := by
  rw [chainFrom, operator?_operator]
  simp only
  congr 1
  funext next
  congr 1
  funext read
  obtain ⟨right, rest⟩ := read
  simp only
  split <;> simp_all

/-- A chain is at its end where no operator of its precedence follows. -/
theorem chainFrom_closed {level : Precedence} {operand : Reader Operand} {left : Operand}
    {rest : TokenStream} (closed : operator? level rest = none)
    : chainFrom level operand left rest = .ok (left, rest) := by
  rw [chainFrom, closed]

end Reader

namespace TokenStream

/-- Nothing at the front of the stream continues what the category stands for. -/
def Closes (stream : TokenStream) : Category → Prop
  | .factor => True
  | .chain .exponential => Reader.operator? .exponential stream = none
  | .chain .multiplicative =>
      Reader.operator? .multiplicative stream = none
      ∧ Reader.operator? .exponential stream = none
  | .chain .additive =>
      Reader.operator? .additive stream = none
      ∧ Reader.operator? .multiplicative stream = none
      ∧ Reader.operator? .exponential stream = none

/-- A chain ends where no operator of its precedence follows and its operands end. -/
theorem closes_chain {stream : TokenStream} {level : Precedence}
    : stream.Closes (.chain level)
      ↔ Reader.operator? level stream = none ∧ stream.Closes level.operands := by
  cases level <;> simp [Closes, Precedence.operands]

/-- An operator ends the operands which it joins. -/
theorem closes_operands (op : Operator) (rest : TokenStream)
    : (token (.operator op) rest).Closes op.precedence.operands := by
  cases op <;> simp [Closes, Precedence.operands, Operator.precedence, Reader.operator?]

/-- A stream which does not begin with an operator ends everything. -/
theorem closes_of_no_operator {stream : TokenStream}
    (other : ∀ op rest, stream ≠ token (.operator op) rest) (category : Category)
    : stream.Closes category := by
  have none (level : Precedence) : Reader.operator? level stream = none := by
    apply Option.eq_none_iff_forall_ne_some.mpr
    rintro ⟨op, rest⟩ found
    exact other op rest (Reader.operator?_eq_some.mp found).2
  rcases category with _ | level
  · trivial
  · cases level <;> simp [Closes, none]

end TokenStream

end Formulary
