import Formulary.Collector
import Formulary.Proofs.Reading.Categories
import Formulary.Proofs.Reading.Operands

/-! One set of variables for a whole formula. A reader which is handed the variables met before
it adds to them those which its operand has, and reads the same tree or fails alike.
-/

namespace Formulary

open Outcomes

namespace VarSet

/-- Unions are formed from either end. -/
theorem union_assoc (first second third : VarSet)
    : (first.union second).union third = first.union (second.union third) := by
  apply ext
  intro member
  simp only [mem_union]
  grind

/-- Nothing comes from the empty set. -/
theorem empty_union (set : VarSet) : empty.union set = set := by
  apply ext
  intro member
  simp only [mem_union, not_mem_empty, or_false]

end VarSet

namespace Operand

/-- The operand without its variables. -/
def subtree (operand : Operand) : Subtree :=
  { expr := operand.expr, height := operand.height }

/-- One more node is put on top alike. -/
theorem subtree_withNode (operand : Operand) (node : Expr → Expr)
    : operand.subtree.withNode node = (operand.withNode node).map subtree := by
  simp only [withNode, Subtree.withNode, subtree]
  cases heightOver operand.height <;> rfl

/-- The variables are the same under one more node. -/
theorem vars_of_withNode {operand tree : Operand} {node : Expr → Expr}
    (wrapped : operand.withNode node = .ok tree)
    : tree.vars = operand.vars := by
  obtain ⟨_, _, returned⟩ := bind_eq_ok_iff.mp wrapped
  cases returned
  rfl

/-- Operands are joined alike. -/
theorem subtree_join (op : Operator) (left right : Operand)
    : left.subtree.join op right.subtree = (left.join op right).map subtree := by
  simp only [join, Subtree.join, subtree]
  cases heightOver (max left.height right.height) <;> rfl

/-- An operation has the variables of both operands. -/
theorem vars_of_join {op : Operator} {left right tree : Operand}
    (joined : left.join op right = .ok tree)
    : tree.vars = left.vars.union right.vars := by
  obtain ⟨_, _, returned⟩ := bind_eq_ok_iff.mp joined
  cases returned
  rfl

/-- An operand which was read, with its variables added to those met before. -/
def addedTo (vars : VarSet) : Operand × TokenStream → Subtree × VarSet × TokenStream
  | (operand, rest) => (operand.subtree, vars.union operand.vars, rest)

end Operand

namespace Collector

/-- The collector reads what the reader does, and adds the variables to those met before. -/
def Follows (collector : Collector Subtree) (reader : Reader Operand) : Prop :=
  ∀ vars stream, collector vars stream = (reader stream).map (Operand.addedTo vars)

/-- Going on with a chain, where an operator of its precedence follows, takes the operator and
one operand and goes on from the operation.
-/
theorem chainFrom_operator (operand : Collector Subtree) (op : Operator) (left : Subtree)
    (vars : VarSet) (rest : TokenStream)
    : chainFrom op.precedence operand left vars (.token (.operator op) rest)
      = (do
          let rest ← rest.settle
          let (right, vars, rest) ← operand vars rest
          let tree ← left.join op right
          chainFrom op.precedence operand tree vars rest) := by
  rw [chainFrom, Reader.operator?_operator]
  simp only
  congr 1
  funext next
  congr 1
  funext read
  obtain ⟨right, vars, rest⟩ := read
  simp only
  split <;> simp_all

/-- A chain goes on alike from any operand whose variables have been added, by induction on the
run of its reader.
-/
theorem follows_chainFrom {collector : Collector Subtree} {reader : Reader Operand}
    (operands : collector.Follows reader) (level : Precedence) (left : Operand) (vars : VarSet)
    (stream : TokenStream)
    : chainFrom level collector left.subtree (vars.union left.vars) stream
      = (Reader.chainFrom level reader left stream).map (Operand.addedTo vars) := by
  induction left, stream using Reader.chainFrom.induct level with
  | case1 left stream ended =>
      rw [chainFrom, ended, Reader.chainFrom_closed ended]
      rfl
  | case2 left stream op rest front ih =>
      obtain ⟨rfl, rfl⟩ := Reader.operator?_eq_some.mp front
      rw [chainFrom_operator, Reader.chainFrom_operator]
      cases rest.settle with
      | error error => rfl
      | ok settled =>
          rw [ok_bind, ok_bind, operands]
          cases reader settled with
          | error error => rfl
          | ok read =>
              obtain ⟨right, remaining⟩ := read
              simp only [map_ok, Operand.addedTo, ok_bind, Operand.subtree_join]
              cases joined : left.join op right with
              | error error => rfl
              | ok tree =>
                  rw [VarSet.union_assoc, ← Operand.vars_of_join joined]
                  exact ih right remaining tree joined

/-- A chain follows its reader if its operands follow theirs. -/
theorem Follows.chain {collector : Collector Subtree} {reader : Reader Operand}
    (operands : collector.Follows reader) (level : Precedence)
    : (Collector.chain level collector).Follows (Reader.chain level reader) := by
  intro vars stream
  rw [Collector.chain, Reader.chain, operands]
  cases reader stream with
  | error error => rfl
  | ok read => exact follows_chainFrom operands level read.1 vars read.2

/-- An expression follows its reader if its factors follow theirs. -/
theorem Follows.expression {collector : Collector Subtree} {reader : Reader Operand}
    (factors : collector.Follows reader)
    : (Collector.expression collector).Follows (Reader.expression reader) :=
  ((factors.chain .exponential).chain .multiplicative).chain .additive

/-- A sign or a function in front of a factor. -/
theorem Follows.withNode {collector : Collector Subtree} {reader : Reader Operand}
    (factors : collector.Follows reader) (node : Expr → Expr) (vars : VarSet)
    (stream : TokenStream)
    : (do
        let (operand, vars, rest) ← collector vars (← stream.settle)
        return (← operand.withNode node, vars, rest))
      = (do
          let (operand, rest) ← reader (← stream.settle)
          return (← operand.withNode node, rest)).map (Operand.addedTo vars) := by
  cases stream.settle with
  | error error => rfl
  | ok settled =>
      rw [ok_bind, ok_bind, factors]
      cases reader settled with
      | error error => rfl
      | ok read =>
          obtain ⟨operand, rest⟩ := read
          simp only [map_ok, Operand.addedTo, ok_bind, Operand.subtree_withNode]
          cases wrapped : operand.withNode node with
          | error error => rfl
          | ok tree =>
              rw [← Operand.vars_of_withNode wrapped]
              rfl

/-- Every factor follows its reader, by induction on the room left. -/
theorem follows_factor (room : Nat) : (factor room).Follows (Reader.factor room) := by
  induction room with
  | zero => rintro vars (_ | _ | _) <;> rfl
  | succ room ih =>
      intro vars stream
      rw [factor.eq_def, Reader.factor.eq_def]
      -- The cases are those of the first token.
      cases stream with
      | finish | fault error => rfl
      | token head rest =>
          cases head with
          | number value | var index =>
              simp only
              cases rest.settle <;> rfl
          | constant name =>
              simp only
              cases rest.settle with
              | error error => rfl
              | ok settled =>
                  simp only [ok_bind]
                  cases Reader.expect .leftParen .leftParen settled with
                  | error error => rfl
                  | ok inside =>
                      simp only [ok_bind]
                      cases Reader.expect .rightParen .rightParen inside <;> rfl
          | function name => exact ih.withNode (.call name) vars rest
          | leftParen =>
              simp only
              cases rest.settle with
              | error error => rfl
              | ok settled =>
                  rw [ok_bind, ok_bind, ih.expression]
                  cases Reader.expression (Reader.factor room) settled with
                  | error error => rfl
                  | ok read =>
                      simp only [map_ok, ok_bind, Operand.addedTo]
                      cases Reader.expect .rightParen .rightParen read.2 <;> rfl
          | rightParen => rfl
          | operator op =>
              simp only
              cases op.sign? with
              | none => rfl
              | some sign => exact ih.withNode (.signed sign) vars rest

/-- A formula is read alike with one set of variables for the whole of it. -/
theorem formula_eq_ofStream (stream : TokenStream) : formula stream = Formula.ofStream stream := by
  have whole := (follows_factor maxNesting).expression .empty
  unfold formula Formula.ofStream
  cases stream.settle with
  | error error => rfl
  | ok settled =>
      rw [ok_bind, ok_bind, whole]
      cases Reader.expression (Reader.factor maxNesting) settled with
      | error error => rfl
      | ok read =>
          obtain ⟨operand, rest⟩ := read
          simp only [map_ok, Operand.addedTo, ok_bind, VarSet.empty_union]
          rfl

end Collector

end Formulary
