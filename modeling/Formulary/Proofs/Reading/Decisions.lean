import Formulary.Formula
import Formulary.Proofs.Outcomes
import Formulary.Proofs.Reading.Categories

/-! At which token a reading is decided. A reader looks at one token behind what it takes,
so it does the same with any stream which agrees up to that token.
-/

namespace Formulary

open Outcomes TokenStream

namespace TokenStream

/-- The second stream is at its end or begins with the same token as the first one. -/
inductive Agrees : TokenStream → TokenStream → Prop where
  | finish (stream : TokenStream) : Agrees stream .finish
  | token (head : Token) (rest rest' : TokenStream)
    : Agrees (.token head rest) (.token head rest')

namespace Agrees

/-- With the same tokens in front, streams agree on the first of them. -/
theorem prepend {stream other : TokenStream} (tokens : List Token)
    (agrees : Agrees stream other)
    : Agrees (prepend tokens stream) (prepend tokens other) := by
  cases tokens with
  | nil => exact agrees
  | cons head tokens => exact .token head _ _

theorem settle {stream other : TokenStream} (agrees : Agrees stream other)
    : other.settle = .ok other := by
  cases agrees <;> rfl

/-- Where no operator of a precedence follows, none follows in a stream which agrees. -/
theorem operator? {stream other : TokenStream} {level : Precedence}
    (agrees : Agrees stream other) (closed : Reader.operator? level stream = none)
    : Reader.operator? level other = none := by
  cases agrees with
  | finish => rfl
  | token head rest rest' =>
      cases head with
      | operator op =>
          have other : op.precedence ≠ level := by
            rintro rfl
            simp [Reader.operator?_operator] at closed
          simp [Reader.operator?, other]
      | _ => rfl

end Agrees

end TokenStream

namespace Operand

theorem heightOver_eq_error {below : Nat} {error : Error}
    (failed : heightOver below = .error error)
    : error = .nestingTooDeep maxNesting := by
  unfold heightOver at failed
  split at failed <;> cases failed
  rfl

theorem withNode_eq_error {operand : Operand} {node : Expr → Expr} {error : Error}
    (failed : operand.withNode node = .error error)
    : error = .nestingTooDeep maxNesting := by
  rcases bind_eq_error_iff.mp failed with high | ⟨_, _, impossible⟩
  · exact heightOver_eq_error high
  · cases impossible

theorem join_eq_error {op : Operator} {left right : Operand} {error : Error}
    (failed : join op left right = .error error)
    : error = .nestingTooDeep maxNesting := by
  rcases bind_eq_error_iff.mp failed with high | ⟨_, _, impossible⟩
  · exact heightOver_eq_error high
  · cases impossible

end Operand

namespace Reader

variable {α β : Type}

/-- Why reading a stream fails. -/
inductive Failure (read : Reader α) (stream : TokenStream) (error : Error) : Prop where
  /-- The stream ends in the failure. -/
  | fault (ends : stream.fault? = some error)
  /-- The end of the text is reached, where something is missing or a tree is too high. -/
  | finish (ends : stream.fault? = none)
    (cause : error = .unexpectedEnd ∨ error = .nestingTooDeep maxNesting)
  /-- A token decides it, whatever follows. If it is out of place, there would have been
  something missing without it.
  -/
  | token (tokens : List Token) (found : Token) (rest : TokenStream)
    (same : stream = prepend tokens (.token found rest))
    (decided : ∀ other, read (prepend tokens (.token found other)) = .error error)
    (cause
      : error = .nestingTooDeep maxNesting
        ∨ (∃ expected, error = .unexpectedToken found expected)
          ∧ read (prepend tokens .finish) = .error .unexpectedEnd)

/-- What comes of reading a stream is decided by the tokens which are taken and by the one
behind them.
-/
structure Decided (read : Reader α) (stream : TokenStream) : Prop where
  success
    : ∀ value rest,
        read stream = .ok (value, rest)
        → ∃ tokens,
            stream = prepend tokens rest
            ∧ rest.settle = .ok rest
            ∧ ∀ other, Agrees rest other → read (prepend tokens other) = .ok (value, other)
  failure : ∀ error, read stream = .error error → Failure read stream error

/-- The reader looks at one token behind what it takes, where the stream does not begin with
a failure.
-/
def LooksAhead (read : Reader α) : Prop :=
  ∀ stream, stream.settle = .ok stream → Decided read stream

/-- What is read without taking anything is decided at once. -/
theorem looksAhead_pure (value : α) : LooksAhead fun stream => .ok (value, stream) := by
  intro stream settled
  refine ⟨?_, fun _ impossible => by cases impossible⟩
  intro value' rest read
  cases read
  exact ⟨[], rfl, settled, fun _ _ => rfl⟩

/-- A reader which fails for a limit looks at the next token before. -/
theorem looksAhead_tooDeep {read : Reader α}
    (tooDeep
      : ∀ stream,
          stream.settle = .ok stream → read stream = .error (.nestingTooDeep maxNesting))
    : LooksAhead read := by
  intro stream settled
  constructor
  · intro value rest impossible
    rw [tooDeep stream settled] at impossible
    cases impossible
  · intro error failed
    rw [tooDeep stream settled] at failed
    cases failed
    cases stream with
    | fault error => cases settled
    | finish => exact .finish rfl (.inr rfl)
    | token found rest =>
        exact .token [] found rest rfl (fun _ => tooDeep _ (settle_token _ _)) (.inl rfl)

/-- One reader after the other looks ahead if both do. What the first one takes is the same
in every stream which agrees with the first one where the second one decides.
-/
theorem LooksAhead.bind {first : Reader α} (ahead : LooksAhead first) (next : α → Reader β)
    (aheadNext : ∀ value, LooksAhead (next value))
    : LooksAhead
        (fun stream => do
          let (value, rest) ← first stream
          next value rest) := by
  intro stream settled
  have decided := ahead stream settled
  constructor
  · intro value rest read
    obtain ⟨⟨middle, between⟩, readFirst, readNext⟩ := bind_eq_ok_iff.mp read
    obtain ⟨tokens, rfl, settledBetween, again⟩ := decided.success _ _ readFirst
    obtain ⟨more, rfl, settledRest, againNext⟩ :=
      (aheadNext middle between settledBetween).success _ _ readNext
    refine ⟨tokens ++ more, (prepend_append _ _ _).symm, settledRest, ?_⟩
    intro other agrees
    rw [prepend_append, again _ (agrees.prepend more), ok_bind]
    exact againNext other agrees
  · intro error failed
    rcases bind_eq_error_iff.mp failed with
      failedFirst | ⟨⟨middle, between⟩, readFirst, failedNext⟩
    · cases decided.failure error failedFirst with
      | fault ends => exact .fault ends
      | finish ends cause => exact .finish ends cause
      | token tokens found rest same again cause =>
          refine .token tokens found rest same (fun other => ?_) (cause.imp_right ?_)
          · rw [again other, error_bind]
          · rintro ⟨unexpected, missing⟩
            exact ⟨unexpected, by rw [missing, error_bind]⟩
    · obtain ⟨tokens, rfl, settledBetween, again⟩ := decided.success _ _ readFirst
      cases (aheadNext middle between settledBetween).failure error failedNext with
      | fault ends => exact .fault ((fault?_prepend _ _).trans ends)
      | finish ends cause => exact .finish ((fault?_prepend _ _).trans ends) cause
      | token more found rest same againNext cause =>
          subst same
          refine .token (tokens ++ more) found rest (prepend_append _ _ _).symm
            (fun other => ?_) (cause.imp_right ?_)
          · rw [prepend_append, again _ ((Agrees.token _ _ _).prepend more), ok_bind]
            exact againNext other
          · rintro ⟨unexpected, missing⟩
            refine ⟨unexpected, ?_⟩
            rw [prepend_append, again _ ((Agrees.finish _).prepend more), ok_bind]
            exact missing

/-- A reader is decided behind a token which it takes, if what it does there looks ahead. -/
theorem LooksAhead.behind {read next : Reader α} (ahead : LooksAhead next) {head : Token}
    (step : ∀ rest, read (.token head rest) = (rest.settle >>= next)) (rest : TokenStream)
    : Decided read (.token head rest) := by
  constructor
  · intro value rest' readAll
    rw [step] at readAll
    obtain ⟨settled, passed, readNext⟩ := bind_eq_ok_iff.mp readAll
    obtain ⟨rfl, passed⟩ := settle_eq_ok passed
    obtain ⟨tokens, rfl, settled', again⟩ := (ahead _ passed).success _ _ readNext
    refine ⟨head :: tokens, rfl, settled', fun other agrees => ?_⟩
    rw [prepend_cons, step, settle_prepend agrees.settle, ok_bind, again other agrees]
  · intro error failed
    rw [step] at failed
    rcases bind_eq_error_iff.mp failed with failedSettle | ⟨settled, passed, failedNext⟩
    · have ends := fault?_of_settle failedSettle
      exact .fault ends
    · obtain ⟨rfl, passed⟩ := settle_eq_ok passed
      cases (ahead _ passed).failure error failedNext with
      | fault ends => exact .fault ends
      | finish ends cause => exact .finish ends cause
      | token tokens found rest' same again cause =>
          refine .token (head :: tokens) found rest' (by rw [same, prepend_cons])
            (fun other => ?_) (cause.imp_right ?_)
          · rw [prepend_cons, step, settle_prepend (settle_token _ _), ok_bind, again other]
          · rintro ⟨unexpected, missing⟩
            refine ⟨unexpected, ?_⟩
            rw [prepend_cons, step, settle_prepend settle_finish, ok_bind, missing]

/-- A token out of place is decided at once, if something is missing at the end of the text.
-/
theorem decided_of_unexpected {read : Reader α} {found : Token} (expected : Expectation)
    (unexpected
      : ∀ rest, read (.token found rest) = .error (.unexpectedToken found expected))
    (missing : read .finish = .error .unexpectedEnd) (rest : TokenStream)
    : Decided read (.token found rest) := by
  constructor
  · intro value rest' impossible
    rw [unexpected] at impossible
    cases impossible
  · intro error failed
    rw [unexpected] at failed
    cases failed
    exact .token [] found rest rfl unexpected (.inr ⟨⟨expected, rfl⟩, missing⟩)

/-- The end of the text is decided at once, if something is missing there. -/
theorem decided_finish {read : Reader α} (missing : read .finish = .error .unexpectedEnd)
    : Decided read .finish := by
  constructor
  · intro value rest' impossible
    rw [missing] at impossible
    cases impossible
  · intro error failed
    rw [missing] at failed
    cases failed
    exact .finish rfl (.inl rfl)

/-- A parenthesis is taken if it is there, and then a reader which looks ahead goes on. -/
theorem looksAhead_expect (wanted : Token) (expected : Expectation) {next : Reader α}
    (ahead : LooksAhead next)
    : LooksAhead
        (fun stream => do
          let rest ← expect wanted expected stream
          next rest) := by
  intro stream settled
  cases stream with
  | fault error => cases settled
  | finish => exact decided_finish rfl
  | token found rest =>
      by_cases same : found = wanted
      · exact ahead.behind (fun _ => by simp [expect, same]) rest
      · exact decided_of_unexpected expected (fun _ => by simp [expect, same]) rfl rest

/-- What fails only for the height of a tree, and otherwise lets a reader go on which looks
ahead, looks ahead.
-/
theorem looksAhead_unless_tooDeep (outcome : Except Error α) (next : α → Reader β)
    (limited : ∀ error, outcome = .error error → error = .nestingTooDeep maxNesting)
    (aheadNext : ∀ value, outcome = .ok value → LooksAhead (next value))
    : LooksAhead
        (fun stream => do
          let value ← outcome
          next value stream) := by
  cases result : outcome with
  | error error =>
      cases limited error result
      exact looksAhead_tooDeep fun _ _ => rfl
  | ok value => exact aheadNext value result

/-- A chain is read on looking ahead if its operands are read so, by recursion on how much
higher the tree may become.
-/
theorem looksAhead_chainFrom {level : Precedence} {operand : Reader Operand}
    (ahead : LooksAhead operand) (left : Operand)
    : LooksAhead (chainFrom level operand left) := by
  intro stream settled
  cases front : operator? level stream with
  | none =>
      -- Nothing is taken, and streams which agree do not go on either.
      constructor
      · intro value rest read
        rw [chainFrom_closed front] at read
        cases read
        refine ⟨[], rfl, settled, fun other agrees => ?_⟩
        exact chainFrom_closed (agrees.operator? front)
      · intro error failed
        rw [chainFrom_closed front] at failed
        cases failed
  | some found =>
      obtain ⟨op, rest⟩ := found
      obtain ⟨rfl, rfl⟩ := operator?_eq_some.mp front
      let next (right : Operand) : Reader Operand := fun rest => do
        let tree ← left.join op right
        chainFrom op.precedence operand tree rest
      have aheadNext (right : Operand) : LooksAhead (next right) :=
        looksAhead_unless_tooDeep _ _ (fun _ => Operand.join_eq_error) fun tree joined =>
          looksAhead_chainFrom ahead tree
      exact (ahead.bind next aheadNext).behind (chainFrom_operator operand op left) rest
termination_by maxNesting - left.height
decreasing_by
  have := Operand.height_lt_of_join joined
  omega

theorem looksAhead_chain {level : Precedence} {operand : Reader Operand}
    (ahead : LooksAhead operand)
    : LooksAhead (chain level operand) :=
  ahead.bind _ (looksAhead_chainFrom ahead)

theorem looksAhead_expression {factor : Reader Operand} (ahead : LooksAhead factor)
    : LooksAhead (expression factor) :=
  looksAhead_chain (looksAhead_chain (looksAhead_chain ahead))

/-- A factor under one more node. -/
theorem looksAhead_withNode {factor : Reader Operand} (ahead : LooksAhead factor)
    (node : Expr → Expr)
    : LooksAhead
        (fun stream => do
          let (operand, rest) ← factor stream
          return (← operand.withNode node, rest)) :=
  ahead.bind (fun operand rest => do return (← operand.withNode node, rest)) fun _ =>
    looksAhead_unless_tooDeep _ _ (fun _ => Operand.withNode_eq_error) fun whole _ =>
      looksAhead_pure whole

/-- A factor looks ahead, by induction on the room left and by cases on the first token. -/
theorem looksAhead_factor (room : Nat) : LooksAhead (factor room) := by
  induction room with
  | zero =>
      apply looksAhead_tooDeep
      intro stream settled
      cases stream with
      | fault error => cases settled
      | finish | token head rest => rfl
  | succ room ih =>
      have close (value : Operand) : LooksAhead fun stream => do
          let rest ← expect .rightParen .rightParen stream
          return (value, rest) :=
        looksAhead_expect _ _ (looksAhead_pure value)
      intro stream settled
      cases stream with
      | fault error => cases settled
      | finish => exact decided_finish rfl
      | token head rest =>
          cases head with
          | number value => exact (looksAhead_pure _).behind (fun _ => rfl) rest
          | var index => exact (looksAhead_pure _).behind (fun _ => rfl) rest
          | constant name =>
              exact (looksAhead_expect _ _ (close _)).behind (fun _ => rfl) rest
          | function name => exact (looksAhead_withNode ih _).behind (fun _ => rfl) rest
          | operator op =>
              cases isSign : op.sign? with
              | some sign =>
                  exact (looksAhead_withNode ih (.signed sign)).behind
                    (fun _ => by simp [factor, isSign]) rest
              | none =>
                  exact decided_of_unexpected .operand (fun _ => by simp [factor, isSign]) rfl
                    rest
          | leftParen =>
              exact ((looksAhead_expression ih).bind _ close).behind (fun _ => rfl) rest
          | rightParen => exact decided_of_unexpected .operand (fun _ => rfl) rfl rest

end Reader

namespace Formula

/-- Why a stream is refused as a formula. -/
inductive Refusal (stream : TokenStream) (error : Error) : Prop where
  /-- The stream ends in the failure. -/
  | fault (ends : stream.fault? = some error)
  /-- The end of the text is reached, where something is missing or a tree is too high. -/
  | finish (ends : stream.fault? = none)
    (cause : error = .unexpectedEnd ∨ error = .nestingTooDeep maxNesting)
  /-- A token decides it, whatever follows. Unless it is too deep, the error names it, and
  tells whether the tokens before it are a formula or something is missing behind them.
  -/
  | token (tokens : List Token) (found : Token) (rest : TokenStream)
    (same : stream = prepend tokens (.token found rest))
    (decided : ∀ other, ofStream (prepend tokens (.token found other)) = .error error)
    (cause
      : error = .nestingTooDeep maxNesting
        ∨ (∃ expected, error = .unexpectedToken found expected)
          ∧ ofStream (prepend tokens .finish) = .error .unexpectedEnd
        ∨ error = .trailingToken found
          ∧ ∃ formula, ofStream (prepend tokens .finish) = .ok formula)

/-- Where the stream does not begin with a failure, the expression is read at once. -/
theorem ofStream_of_settle {stream : TokenStream} (settled : stream.settle = .ok stream)
    : ofStream stream
      = (do
          let (tree, rest) ← Reader.expression (Reader.factor maxNesting) stream
          match rest with
          | .finish => return { expr := tree.expr, vars := tree.vars }
          | .token found _ => throw (.trailingToken found)
          | .fault error => throw error) :=
  congrArg (· >>= _) settled

/-- Whatever refuses a stream, it is found at the end or at one token. -/
theorem refusal_of_ofStream {stream : TokenStream} {error : Error}
    (failed : ofStream stream = .error error)
    : Refusal stream error := by
  have settledFront (tokens : List Token) (found : Token) (rest : TokenStream)
      : (prepend tokens (token found rest)).settle = .ok (prepend tokens (token found rest)) :=
    settle_prepend (settle_token found rest)
  rcases bind_eq_error_iff.mp failed with failedSettle | ⟨next, passed, failedNext⟩
  · exact .fault (fault?_of_settle failedSettle)
  obtain ⟨rfl, settled⟩ := settle_eq_ok passed
  have decided := Reader.looksAhead_expression (Reader.looksAhead_factor maxNesting) _ settled
  rcases bind_eq_error_iff.mp failedNext with
    failedTree | ⟨⟨tree, rest⟩, read, failedRest⟩
  · cases decided.failure error failedTree with
    | fault ends => exact .fault ends
    | finish ends cause => exact .finish ends cause
    | token tokens found rest same again cause =>
        refine .token tokens found rest same (fun other => ?_) (cause.imp_right ?_)
        · rw [ofStream_of_settle (settledFront _ _ _), again other, error_bind]
        · rintro ⟨unexpected, missing⟩
          exact .inl ⟨unexpected, by
            rw [ofStream_of_settle (settle_prepend settle_finish), missing, error_bind]⟩
  · obtain ⟨tokens, rfl, settledRest, again⟩ := decided.success _ _ read
    cases rest with
    | finish => cases failedRest
    | fault error' => cases settledRest
    | token found rest =>
        cases failedRest
        refine .token tokens found rest rfl (fun other => ?_) (.inr (.inr ⟨rfl, ?_⟩))
        · rw [ofStream_of_settle (settledFront _ _ _), again _ (.token found rest other)]
          rfl
        · refine ⟨{ expr := tree.expr, vars := tree.vars }, ?_⟩
          rw [ofStream_of_settle (settle_prepend settle_finish), again _ (.finish _)]
          rfl

end Formula

end Formulary
