import Formulary.Proofs.Reading.Exactness
import Formulary.Proofs.Reading.Failures

/-! The first token at which a text ceases to begin a formula. A text which only ends too
early can be completed, so nothing before the token which is refused was wrong.
-/

namespace Formulary

open Outcomes Operand TokenStream

/-- The tokens begin some formula, perhaps a whole one. -/
def BeginsSentence (tokens : List Token) : Prop :=
  ∃ more, IsSentence (tokens ++ more)

/-- A formula begins itself. -/
theorem IsSentence.begins {tokens : List Token} (sentence : IsSentence tokens)
    : BeginsSentence tokens :=
  ⟨[], by simpa using sentence⟩

/-- What begins the beginning of a formula begins a formula. -/
theorem BeginsSentence.of_isPrefix {front tokens : List Token} (begins : BeginsSentence tokens)
    (isFront : front <+: tokens)
    : BeginsSentence front := by
  obtain ⟨after, rfl⟩ := isFront
  obtain ⟨more, sentence⟩ := begins
  exact ⟨after ++ more, by simpa using sentence⟩

/-- Where a token is refused behind tokens which begin a formula, the tokens up to it are the
shortest which begin none.
-/
theorem BeginsSentence.take_append {before : List Token} {found : Token}
    (begins : BeginsSentence before) (refused : ¬BeginsSentence (before ++ [found]))
    (after : List Token)
    : ¬BeginsSentence ((before ++ found :: after).take (before.length + 1))
      ∧ ∀ earlier < before.length,
          BeginsSentence ((before ++ found :: after).take (earlier + 1)) := by
  constructor
  · have front
        : (before ++ found :: after).take (before.length + 1) = before ++ [found] := by
      simp [List.take_append]
    rwa [front]
  · intro earlier sooner
    apply begins.of_isPrefix
    rw [List.take_append_of_le_length (Nat.succ_le_of_lt sooner)]
    exact List.take_prefix _ _

/-- The tokens can be completed to what the category stands for. -/
def Begins (category : Category) (tokens : List Token) : Prop :=
  ∃ more expr nesting, Derives category (tokens ++ more) expr nesting

namespace Begins

/-- A factor can begin with anything which a factor begins with, so with nothing yet. -/
theorem factor_nil : Begins .factor [] :=
  ⟨[.var 0], _, _, .var 0⟩

/-- What is whole can be completed with nothing. -/
theorem of_derives {category : Category} {tokens : List Token} {expr : Expr} {nesting : Nat}
    (whole : Derives category tokens expr nesting)
    : Begins category tokens :=
  ⟨[], expr, nesting, by simpa using whole⟩

/-- A sign or a function begins a factor together with what begins its operand. -/
theorem withNode {front : Token} {node : Expr → Expr} {tokens : List Token}
    (derives
      : ∀ {tokens expr nesting},
          Derives .factor tokens expr nesting
          → Derives .factor (front :: tokens) (node expr) (nesting + 1))
    (begins : Begins .factor tokens)
    : Begins .factor (front :: tokens) := by
  obtain ⟨more, _, _, whole⟩ := begins
  exact ⟨more, _, _, derives whole⟩

/-- A parenthesis begins a factor together with what begins an expression. -/
theorem parens {tokens : List Token} (begins : Begins (.chain .additive) tokens)
    : Begins .factor (.leftParen :: tokens) := by
  obtain ⟨more, expr, nesting, whole⟩ := begins
  exact ⟨more ++ [.rightParen], expr, nesting + 1, by simpa using Derives.parens whole⟩

/-- What begins an operand begins a chain. -/
theorem single {level : Precedence} {tokens : List Token}
    (begins : Begins level.operands tokens)
    : Begins (.chain level) tokens := by
  obtain ⟨more, _, _, whole⟩ := begins
  exact ⟨more, _, _, .single whole⟩

/-- A chain goes on with an operator and what begins an operand. -/
theorem join {op : Operator} {before after : List Token} {left : Expr} {outer : Nat}
    (first : Derives (.chain op.precedence) before left outer)
    (begins : Begins op.precedence.operands after)
    : Begins (.chain op.precedence) (before ++ .operator op :: after) := by
  obtain ⟨more, right, inner, last⟩ := begins
  exact ⟨more, _, _, by simpa using Derives.join first last⟩

end Begins

namespace Reader

/-- Where the reader misses something at the end of the text, its tokens can be completed. -/
def Completable (room : Nat) (category : Category) : Prop :=
  ∀ stream : TokenStream,
    stream.fault? = none
    → ofCategory room category stream = .error .unexpectedEnd
    → Begins category stream.tokens

/-- A parenthesis is missing only where the text ends. -/
theorem eq_finish_of_expect {token : Token} {expected : Expectation} {stream : TokenStream}
    (sound : stream.fault? = none)
    (missing : expect token expected stream = .error .unexpectedEnd)
    : stream = .finish := by
  cases stream with
  | finish => rfl
  | fault error => cases sound
  | token found rest =>
      have behind : rest.settle = .ok rest := settle_of_fault? sound
      simp only [expect, behind] at missing
      split at missing <;> cases missing

/-- A chain can be completed where its last operand can. Induction is on the run of the
chain, and what was read before is a chain already.
-/
theorem begins_of_chainFrom {room : Nat} {level : Precedence}
    (operands : Completable room level.operands) {left : Operand} {stream : TokenStream}
    {before : List Token} {outer : Nat}
    (missing : chainFrom level (ofCategory room level.operands) left stream
      = .error .unexpectedEnd)
    (sound : stream.fault? = none)
    (derives : Derives (.chain level) before left.expr outer)
    : Begins (.chain level) (before ++ stream.tokens) := by
  fun_induction chainFrom level (ofCategory room level.operands) left stream
    generalizing before outer with
  | case1 left stream ended => cases missing
  | case2 left stream op behind front ih =>
      obtain ⟨rfl, rfl⟩ := operator?_eq_some.mp front
      have settled : behind.settle = .ok behind := settle_of_fault? sound
      rw [settled, ok_bind] at missing
      rcases bind_eq_error_iff.mp missing with missingRight | ⟨⟨right, rest⟩, read, continued⟩
      · exact .join derives (operands behind sound missingRight)
      · obtain ⟨tokens, inner, last⟩ := sound_ofCategory _ _ _ _ _ read
        simp only at continued
        split at continued
        · rename_i error joins
          cases continued
          cases join_eq_error joins
        · rename_i joined joins
          have grown := Derives.join derives last.derives
          rw [← expr_of_join joins] at grown
          have behindSound : rest.fault? = none := by
            simpa [last.taken] using sound
          have begins := ih right rest joined joins continued behindSound grown
          simpa [last.taken] using begins

/-- A chain can be completed if its operands can. -/
theorem completable_chain {room : Nat} {level : Precedence}
    (operands : Completable room level.operands)
    : Completable room (.chain level) := by
  intro stream sound missing
  rw [ofCategory_chain] at missing
  rcases bind_eq_error_iff.mp missing with missingLeft | ⟨⟨left, rest⟩, read, continued⟩
  · exact .single (operands stream sound missingLeft)
  · obtain ⟨tokens, outer, first⟩ := sound_ofCategory _ _ _ _ _ read
    have behind : rest.fault? = none := by
      simpa [first.taken] using sound
    rw [first.taken, tokens_prepend]
    exact begins_of_chainFrom operands continued behind (.single first.derives)

/-- An expression can be completed if its factors can. -/
theorem completable_expression {room : Nat} (factors : Completable room .factor)
    : Completable room (.chain .additive) :=
  have powers : Completable room (.chain .exponential) := completable_chain factors
  have terms : Completable room (.chain .multiplicative) := completable_chain powers
  completable_chain terms

/-- A sign or a function misses what its operand misses. -/
theorem missing_of_withNode {room : Nat} {stream : TokenStream} {node : Expr → Expr}
    (missing
      : (do
          let (operand, rest) ← factor room stream
          return (← operand.withNode node, rest))
        = .error .unexpectedEnd)
    : factor room stream = .error .unexpectedEnd := by
  rcases bind_eq_error_iff.mp missing with missing | ⟨⟨operand, rest⟩, _, wrapped⟩
  · exact missing
  · rcases bind_eq_error_iff.mp wrapped with high | ⟨_, _, impossible⟩
    · cases withNode_eq_error high
    · cases impossible

/-- A factor can be completed, by induction on the room left and by cases on the first
token.
-/
theorem completable_factor (room : Nat) : Completable room .factor := by
  induction room with
  | zero =>
      intro stream sound missing
      cases stream <;> cases missing
      cases sound
  | succ room ih =>
      intro stream sound missing
      change factor (room + 1) stream = .error .unexpectedEnd at missing
      cases stream with
      | fault error => cases sound
      | finish => exact Begins.factor_nil
      | token head rest =>
          rw [fault?_token] at sound
          have settled : rest.settle = .ok rest := settle_of_fault? sound
          cases head with
          | number value => simp [factor, settled] at missing
          | var index => simp [factor, settled] at missing
          | constant name =>
              simp only [factor, settled, ok_bind] at missing
              rcases bind_eq_error_iff.mp missing with
                missingOpen | ⟨behind, opened, missingBehind⟩
              · rw [eq_finish_of_expect sound missingOpen]
                exact ⟨[.leftParen, .rightParen], _, _, .constant name⟩
              · obtain ⟨rfl, _⟩ := expect_eq_ok opened
                rw [fault?_token] at sound
                rcases bind_eq_error_iff.mp missingBehind with
                  missingClose | ⟨_, _, impossible⟩
                · rw [eq_finish_of_expect sound missingClose]
                  exact ⟨[.rightParen], _, _, .constant name⟩
                · cases impossible
          | function name =>
              simp only [factor, settled, ok_bind] at missing
              exact .withNode .call (ih rest sound (missing_of_withNode missing))
          | operator op =>
              cases isSign : op.sign? with
              | some sign =>
                  simp only [factor, isSign, settled, ok_bind] at missing
                  exact .withNode (.signed isSign) (ih rest sound (missing_of_withNode missing))
              | none => simp [factor, isSign] at missing
          | leftParen =>
              simp only [factor, settled, ok_bind] at missing
              rcases bind_eq_error_iff.mp missing with
                missingInner | ⟨⟨inner, behind⟩, read, missingClose⟩
              · exact .parens (completable_expression ih rest sound missingInner)
              · -- What is missing is the parenthesis alone.
                obtain ⟨tokens, nesting, whole⟩ :=
                  sound_ofCategory _ _ _ _ _ (expression_eq_ok.mp read)
                have behindSound : behind.fault? = none := by
                  simpa [whole.taken] using sound
                rcases bind_eq_error_iff.mp missingClose with
                  missingClose | ⟨_, _, impossible⟩
                · have ended := eq_finish_of_expect behindSound missingClose
                  have all : rest.tokens = tokens := by
                    simp [whole.taken, ended]
                  rw [tokens_token, all]
                  exact .parens (.of_derives whole.derives)
                · cases impossible
          | rightParen => simp [factor] at missing

end Reader

namespace Formula

/-- Tokens which make up a formula are read as one, or they are too deep. -/
theorem ofStream_of_isSentence {tokens : List Token} (sentence : IsSentence tokens)
    : (∃ formula, ofStream (prepend tokens .finish) = .ok formula)
      ∨ ofStream (prepend tokens .finish) = .error (.nestingTooDeep maxNesting) := by
  obtain ⟨expr, nesting, derived⟩ := sentence
  rw [ofStream_of_derives derived]
  by_cases within : nesting ≤ maxNesting ∧ expr.height ≤ maxNesting
  · rw [fitting_of_le within.1 within.2]
    exact .inl ⟨ofExpr expr, rfl⟩
  · rw [fitting_of_not_le expr within]
    exact .inr rfl

/-- Tokens which are read as a formula make one up. -/
theorem isSentence_of_ofStream {tokens : List Token} {formula : Formula}
    (read : ofStream (prepend tokens .finish) = .ok formula)
    : IsSentence tokens := by
  obtain ⟨all, nesting, same, derived, _⟩ := derives_of_ofStream read
  have same : tokens = all := by simpa using congrArg TokenStream.tokens same
  exact ⟨formula.expr, nesting, same ▸ derived⟩

/-- Tokens behind which something is missing make up no formula, but they begin one. -/
theorem beginsSentence_of_ofStream {tokens : List Token}
    (missing : ofStream (prepend tokens .finish) = .error .unexpectedEnd)
    : ¬IsSentence tokens ∧ BeginsSentence tokens := by
  constructor
  · intro sentence
    rcases ofStream_of_isSentence sentence with ⟨formula, read⟩ | deep
    · rw [missing] at read
      cases read
    · rw [missing] at deep
      cases deep
  rw [ofStream_of_settle (settle_prepend settle_finish)] at missing
  rcases bind_eq_error_iff.mp missing with missing | ⟨⟨tree, rest⟩, read, ended⟩
  · have begins :=
      Reader.completable_expression (Reader.completable_factor maxNesting) _
        (fault?_prepend tokens .finish) missing
    rwa [tokens_prepend, tokens_finish, List.append_nil] at begins
  · obtain ⟨_, _, derived⟩ :=
      Reader.sound_ofCategory _ _ _ _ _ (Reader.expression_eq_ok.mp read)
    cases rest with
    | fault error => cases derived.settled
    | finish | token found rest => cases ended

/-- A token which is refused whatever follows it, though not as too deep, begins no formula
together with the tokens before it.
-/
theorem not_beginsSentence_of_decided {tokens : List Token} {found : Token} {error : Error}
    (decided : ∀ other, ofStream (prepend tokens (.token found other)) = .error error)
    (shallow : error ≠ .nestingTooDeep maxNesting)
    : ¬BeginsSentence (tokens ++ [found]) := by
  rintro ⟨more, sentence⟩
  have failed : ofStream (prepend (tokens ++ [found] ++ more) .finish) = .error error := by
    rw [prepend_append, prepend_append]
    exact decided (prepend more .finish)
  rcases ofStream_of_isSentence sentence with ⟨formula, read⟩ | deep
  · rw [failed] at read
    cases read
  · rw [failed] at deep
    exact shallow (Except.error.inj deep)

/-- Where tokens are no formula, though not too deep, either the end comes too early or one
token is the first with which they cease to begin a formula.
-/
theorem ofStream_error_cases {tokens : List Token} {error : Error}
    (failed : ofStream (prepend tokens .finish) = .error error)
    (shallow : error ≠ .nestingTooDeep maxNesting)
    : error = .unexpectedEnd ∧ ¬IsSentence tokens ∧ BeginsSentence tokens
      ∨ ∃ before found after,
          tokens = before ++ found :: after
          ∧ BeginsSentence before
          ∧ ¬BeginsSentence (before ++ [found])
          ∧ (error = .trailingToken found ∧ IsSentence before
              ∨ (∃ expected, error = .unexpectedToken found expected)
                ∧ ¬IsSentence before) := by
  cases refusal_of_ofStream failed with
  | fault ends => simp at ends
  | finish _ cause =>
      obtain rfl := cause.resolve_right shallow
      exact .inl ⟨rfl, beginsSentence_of_ofStream failed⟩
  | token before found rest same decided cause =>
      have split : tokens = before ++ found :: rest.tokens := by
        simpa using congrArg TokenStream.tokens same
      have refused := not_beginsSentence_of_decided decided shallow
      refine .inr ⟨before, found, rest.tokens, split, ?_⟩
      rcases cause.resolve_left shallow with ⟨unexpected, missing⟩ | ⟨trailing, _, read⟩
      · obtain ⟨incomplete, begins⟩ := beginsSentence_of_ofStream missing
        exact ⟨begins, refused, .inr ⟨unexpected, incomplete⟩⟩
      · have sentence := isSentence_of_ofStream read
        exact ⟨sentence.begins, refused, .inl ⟨trailing, sentence⟩⟩

/-- Errors of reading are raised at the earliest token at which one can be seen. Unless
something is too deep, a text is a formula exactly if its tokens make one up, and it ends
too early exactly if they only begin one. Otherwise the error names the first token with
which the text ceases to begin a formula, and tells whether those before it make one up.
-/
theorem parse_earliest_error {text : String} {tokens : List Token}
    (lexed : tokenize text = .ok tokens)
    (shallow : parse text ≠ .error (.nestingTooDeep 256))
    : ((∃ formula, parse text = .ok formula) ↔ IsSentence tokens)
      ∧ (parse text = .error .unexpectedEnd
          ↔ ¬IsSentence tokens ∧ ∃ more, more ≠ [] ∧ IsSentence (tokens ++ more))
      ∧ (¬BeginsSentence tokens
          → ∃ (position : Nat) (within : position < tokens.length),
              ¬BeginsSentence (tokens.take (position + 1))
              ∧ (∀ earlier < position, BeginsSentence (tokens.take (earlier + 1)))
              ∧ (IsSentence (tokens.take position)
                  → parse text = .error (.trailingToken tokens[position]))
              ∧ (¬IsSentence (tokens.take position)
                  → ∃ expected,
                      parse text = .error (.unexpectedToken tokens[position] expected))) := by
  have whole : parse text = ofStream (prepend tokens .finish) := by
    rw [parse, toTokens_eq_ok_iff.mp lexed]
  rw [whole] at shallow ⊢
  have accepts
      : (∃ formula, ofStream (prepend tokens .finish) = .ok formula) ↔ IsSentence tokens :=
    ⟨fun read => read.elim fun _ => isSentence_of_ofStream,
      fun sentence => (ofStream_of_isSentence sentence).resolve_right shallow⟩
  have refuses (incomplete : ¬IsSentence tokens)
      : ∃ error,
          ofStream (prepend tokens .finish) = .error error
          ∧ error ≠ .nestingTooDeep maxNesting := by
    cases read : ofStream (prepend tokens .finish) with
    | ok formula => exact absurd (accepts.mp ⟨formula, read⟩) incomplete
    | error error => exact ⟨error, rfl, fun deep => shallow (by rw [read, deep]; rfl)⟩
  refine ⟨accepts, ⟨?_, ?_⟩, ?_⟩
  · intro missing
    obtain ⟨incomplete, more, sentence⟩ := beginsSentence_of_ofStream missing
    refine ⟨incomplete, more, ?_, sentence⟩
    rintro rfl
    exact incomplete (by simpa using sentence)
  · rintro ⟨incomplete, more, _, sentence⟩
    obtain ⟨error, failed, low⟩ := refuses incomplete
    rcases ofStream_error_cases failed low with
      ⟨rfl, _⟩ | ⟨before, found, after, rfl, _, refused, _⟩
    · exact failed
    · have begins : BeginsSentence (before ++ found :: after) := ⟨more, sentence⟩
      exact absurd (begins.of_isPrefix ⟨after, by simp⟩) refused
  · intro never
    obtain ⟨error, failed, low⟩ := refuses fun sentence => never sentence.begins
    rcases ofStream_error_cases failed low with
      ⟨_, _, begins⟩ | ⟨before, found, after, rfl, begins, refused, cause⟩
    · exact absurd begins never
    · have front : (before ++ found :: after).take before.length = before := by simp
      have within : before.length < (before ++ found :: after).length := by simp
      have here : (before ++ found :: after)[before.length] = found := by simp
      obtain ⟨refusedHere, beginsEarlier⟩ := begins.take_append refused after
      refine ⟨before.length, within, refusedHere, beginsEarlier, ?_⟩
      rw [front, here, failed]
      rcases cause with ⟨rfl, sentence⟩ | ⟨⟨expected, rfl⟩, incomplete⟩
      · exact ⟨fun _ => rfl, absurd sentence⟩
      · exact ⟨fun sentence => absurd sentence incomplete, fun _ => ⟨expected, rfl⟩⟩

/-- A constant without its parentheses is seen at the token behind it, although the
parenthesis in front of it is never closed.
-/
theorem parse_earliest_error_bare_constant
    : tokenize "(2*pi+1"
        = .ok [.leftParen, .number (.integer 2), .operator .multiply, .constant .pi,
            .operator .add, .number (.integer 1)]
      ∧ parse "(2*pi+1" = .error (.unexpectedToken (.operator .add) .leftParen)
      ∧ BeginsSentence
          [.leftParen, .number (.integer 2), .operator .multiply, .constant .pi]
      ∧ ¬BeginsSentence
          [.leftParen, .number (.integer 2), .operator .multiply, .constant .pi,
            .operator .add] := by
  have lexed
      : tokenize "(2*pi+1"
        = .ok [.leftParen, .number (.integer 2), .operator .multiply, .constant .pi,
            .operator .add, .number (.integer 1)] := by
    cbv
  have failed : parse "(2*pi+1" = .error (.unexpectedToken (.operator .add) .leftParen) := by
    cbv
  obtain ⟨accepts, missing, earliest⟩ := parse_earliest_error lexed (by simp [failed])
  rw [failed] at accepts missing earliest
  refine ⟨lexed, failed, ?_⟩
  have never
      : ¬BeginsSentence
          [.leftParen, .number (.integer 2), .operator .multiply, .constant .pi,
            .operator .add, .number (.integer 1)] := by
    rintro ⟨more, sentence⟩
    have incomplete := mt accepts.mpr (by simp)
    cases more with
    | nil => exact incomplete sentence
    | cons head more => cases missing.mpr ⟨incomplete, _, List.cons_ne_nil head more, sentence⟩
  obtain ⟨position, within, refused, begins, trailing, unexpected⟩ := earliest never
  obtain ⟨expected, named⟩ := unexpected fun sentence => by cases trailing sentence
  -- Of the six tokens only one is the operator which the error names.
  have here : position = 4 := by
    change position < 6 at within
    interval_cases position <;> first | rfl | simp at named
  subst here
  exact ⟨begins 3 (by decide), refused⟩

end Formula

end Formulary
