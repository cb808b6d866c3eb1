import Formulary.Proofs.Reading.Categories

/-! Reading step by step, with the calls in progress on a stack and a counter which every factor
raises when it begins and lowers when it comes back, whatever it comes back with. The room left
for factors is never handed down, it is what the counter leaves. Every call comes back with what
the reader of its category gives, and until then all that happens is inside that call.
-/

namespace Formulary.Reader

open Outcomes

-----------------------------------------------------------------------------------------
-- Points of a run
-----------------------------------------------------------------------------------------

/-- What applies to the one factor behind it. -/
inductive Application where
  | sign (kind : Sign)
  | function (name : ElementaryFunction)

/-- The node of the application. -/
def Application.node : Application → Expr → Expr
  | sign kind => .signed kind
  | function name => .call name

/-- What a call in progress does once the call which it has made comes back. -/
inductive Frame where
  /-- The factor is left. -/
  | factor
  /-- The node goes on top of the factor. -/
  | node (application : Application)
  /-- The parenthesis is closed behind the expression. -/
  | close
  /-- The chain goes on from its first operand. -/
  | first (level : Precedence)
  /-- The operand is joined to what is on its left, and the chain goes on. -/
  | join (level : Precedence) (left : Operand) (op : Operator)

/-- The frame is that of a factor. -/
def Frame.isFactor : Frame → Bool
  | factor => true
  | _ => false

/-- What happens next. -/
inductive Control where
  /-- The reader of the category is called. -/
  | call (category : Category) (stream : TokenStream)
  /-- The last call comes back. -/
  | back (outcome : Except Error (Operand × TokenStream))

/-- A point of a run: what happens next, the counter, and the calls in progress, the last one
first.
-/
structure Point where
  control : Control
  depth : Nat
  stack : List Frame

/-- The point at which the outcome comes back. -/
def Point.back (outcome : Except Error (Operand × TokenStream)) (depth : Nat)
    (stack : List Frame) : Point :=
  { control := .back outcome, depth := depth, stack := stack }

/-- The point at which a call is made with a frame for what comes after it, unless the stream has
a failure in front.
-/
def Point.calling (category : Category) (stream : TokenStream) (frame : Frame) (depth : Nat)
    (stack : List Frame) : Point :=
  match stream.settle with
  | .error error => back (.error error) depth stack
  | .ok stream => { control := .call category stream, depth := depth, stack := frame :: stack }

/-- A chain goes on from what has been read of it. -/
def Point.chaining (level : Precedence) (left : Operand) (stream : TokenStream) (depth : Nat)
    (stack : List Frame) : Point :=
  match operator? level stream with
  | none => back (.ok (left, stream)) depth stack
  | some (op, rest) => calling level.operands rest (.join level left op) depth stack

/-- The failure where there is no room for a factor. -/
def tooDeep : TokenStream → Error
  | .fault error => error
  | _ => .nestingTooDeep maxNesting

/-- A factor begins, by its first token. -/
def Point.entering (stream : TokenStream) (depth : Nat) (stack : List Frame) : Point :=
  match stream with
  | .fault error => back (.error error) depth stack
  | .finish => back (.error .unexpectedEnd) depth stack
  | .token (.number value) rest =>
      back (do return (.leaf (.number value), ← rest.settle)) depth stack
  | .token (.var index) rest => back (do return (.var index, ← rest.settle)) depth stack
  | .token (.constant name) rest =>
      back
        (do
          let rest ← expect .leftParen .leftParen (← rest.settle)
          let rest ← expect .rightParen .rightParen rest
          return (.leaf (.constant name), rest))
        depth stack
  | .token (.function name) rest => calling .factor rest (.node (.function name)) depth stack
  | .token .leftParen rest => calling (.chain .additive) rest .close depth stack
  | .token (.operator op) rest =>
      match op.sign? with
      | some sign => calling .factor rest (.node (.sign sign)) depth stack
      | none => back (.error (.unexpectedToken (.operator op) .operand)) depth stack
  | .token .rightParen _ => back (.error (.unexpectedToken .rightParen .operand)) depth stack

/-- What the frame does with the outcome of the call above it. A failure passes through, and a
factor lowers the counter in any case.
-/
def Frame.resume (frame : Frame) (outcome : Except Error (Operand × TokenStream)) (depth : Nat)
    (stack : List Frame) : Point :=
  match frame, outcome with
  | factor, outcome => .back outcome (depth - 1) stack
  | _, .error error => .back (.error error) depth stack
  | node application, .ok (operand, rest) =>
      .back (do return (← operand.withNode application.node, rest)) depth stack
  | close, .ok (inner, rest) =>
      .back (do return (inner, ← expect .rightParen .rightParen rest)) depth stack
  | first level, .ok (left, rest) => .chaining level left rest depth stack
  | join level left op, .ok (right, rest) =>
      match left.join op right with
      | .error error => .back (.error error) depth stack
      | .ok tree => .chaining level tree rest depth stack

namespace Point

/-- The next point of the run. Nothing happens any more once the first call has come back. -/
def step : Point → Point
  | ⟨.call (.chain level) stream, depth, stack⟩ =>
      ⟨.call level.operands stream, depth, .first level :: stack⟩
  | ⟨.call .factor stream, depth, stack⟩ =>
      if maxNesting ≤ depth then back (.error (tooDeep stream)) depth stack
      else entering stream (depth + 1) (.factor :: stack)
  | ⟨.back outcome, depth, []⟩ => ⟨.back outcome, depth, []⟩
  | ⟨.back outcome, depth, frame :: stack⟩ => frame.resume outcome depth stack

/-- The point of the run after so many steps. -/
def after (point : Point) : Nat → Point
  | 0 => point
  | count + 1 => point.step.after count

end Point

-----------------------------------------------------------------------------------------
-- What happens inside a call
-----------------------------------------------------------------------------------------

/-- More calls than those of the stack are in progress. -/
def Above (stack deeper : List Frame) : Prop :=
  ∃ inner ≠ [], deeper = inner ++ stack

/-- One more call is one more. -/
theorem above_cons (frame : Frame) (stack : List Frame) : Above stack (frame :: stack) :=
  ⟨[frame], by simp, rfl⟩

/-- What is above one more call is above the others. -/
theorem Above.of_cons {frame : Frame} {stack deeper : List Frame}
    (above : Above (frame :: stack) deeper)
    : Above stack deeper := by
  obtain ⟨inner, _, rfl⟩ := above
  exact ⟨inner ++ [frame], by simp, by simp⟩

/-- The run comes from the one point to the other, and until then more calls than those of the
stack are in progress.
-/
inductive Inside (stack : List Frame) : Point → Point → Prop where
  | here (point : Point) : Inside stack point point
  | step {point last : Point} (above : Above stack point.stack)
    (rest : Inside stack point.step last)
    : Inside stack point last

namespace Inside

variable {stack : List Frame} {point middle last : Point}

/-- Two parts of a run follow each other, by induction on the first. -/
theorem trans (first : Inside stack point middle) (second : Inside stack middle last)
    : Inside stack point last := by
  induction first with
  | here point => exact second
  | step above _ ih => exact .step above (ih second)

/-- What happens inside a call happens inside the call which made it. -/
theorem outer {frame : Frame} (inside : Inside (frame :: stack) point last)
    : Inside stack point last := by
  induction inside with
  | here point => exact .here point
  | step above _ ih => exact .step above.of_cons ih

/-- The steps inside a call can be counted. -/
theorem exists_after (inside : Inside stack point last)
    : ∃ count,
        point.after count = last
        ∧ ∀ earlier < count, Above stack (point.after earlier).stack := by
  induction inside with
  | here point => exact ⟨0, rfl, by omega⟩
  | step above _ ih =>
      obtain ⟨count, reached, between⟩ := ih
      refine ⟨count + 1, reached, fun earlier within => ?_⟩
      cases earlier with
      | zero => exact above
      | succ earlier => exact between earlier (Nat.lt_of_succ_lt_succ within)

end Inside

/-- Where the counter leaves so much room, every call for the category comes back with what its
reader gives, and with the counter and the stack as they were.
-/
def ComesBack (room : Nat) (category : Category) : Prop :=
  ∀ depth stream stack,
    depth + room = maxNesting
    → Inside stack (Point.step ⟨.call category stream, depth, stack⟩)
        (.back (ofCategory room category stream) depth stack)

section Calls

variable {room depth : Nat} {stack : List Frame}

/-- Behind a call its frame goes on with the outcome. -/
theorem ComesBack.resume {category : Category} (calls : ComesBack room category)
    (counted : depth + room = maxNesting) {stream : TokenStream} {frame : Frame} {last : Point}
    (rest
      : Inside stack (frame.resume (ofCategory room category stream) depth stack) last)
    : Inside stack ⟨.call category stream, depth, frame :: stack⟩ last :=
  have called := (calls depth stream (frame :: stack) counted).outer
  .step (above_cons _ _) (called.trans (.step (above_cons _ _) rest))

/-- A call which is not made because of a failure in front gives back that failure. -/
theorem ComesBack.calling {category : Category} (calls : ComesBack room category)
    (counted : depth + room = maxNesting) {stream : TokenStream} {frame : Frame} {last : Point}
    (failed : ∀ error, stream.settle = .error error → last = .back (.error error) depth stack)
    (resumed
      : ∀ settled,
          stream.settle = .ok settled
          → Inside stack (frame.resume (ofCategory room category settled) depth stack) last)
    : Inside stack (.calling category stream frame depth stack) last := by
  unfold Point.calling
  split
  · rename_i error front
    rw [failed error front]
    exact .here _
  · rename_i settled front
    exact calls.resume counted (resumed settled front)

/-- A chain goes on operand by operand, by induction on the run of its reader. -/
theorem inside_chaining {level : Precedence} (operands : ComesBack room level.operands)
    (counted : depth + room = maxNesting) (left : Operand) (stream : TokenStream)
    : Inside stack (.chaining level left stream depth stack)
        (.back (chainFrom level (ofCategory room level.operands) left stream) depth stack) := by
  fun_induction chainFrom level (ofCategory room level.operands) left stream with
  | case1 left stream ended =>
      rw [Point.chaining, ended]
      exact .here _
  | case2 left stream op rest front ih =>
      rw [Point.chaining, front]
      refine operands.calling counted (fun error failed => ?_) fun settled passed => ?_
      · rw [failed]
        rfl
      · rw [passed, ok_bind]
        cases read : ofCategory room level.operands settled with
        | error error => exact .here _
        | ok result =>
            obtain ⟨right, remaining⟩ := result
            simp only [ok_bind, Frame.resume]
            -- The reader and the run ask alike whether the operands can be joined.
            split
            · rename_i error failed
              split
              · rename_i error' failed'
                obtain rfl : error = error' := by simpa [failed] using failed'
                exact .here _
              · rename_i tree joined
                simp [failed] at joined
            · rename_i tree joined
              split
              · rename_i error failed
                simp [joined] at failed
              · rename_i tree' joined'
                obtain rfl : tree = tree' := by simpa [joined] using joined'
                exact ih right remaining tree joined

/-- The calls for a chain come back if those for its operands do. -/
theorem comesBack_chain {level : Precedence} (operands : ComesBack room level.operands)
    : ComesBack room (.chain level) := by
  intro depth stream stack counted
  rw [ofCategory_chain, chain]
  refine operands.resume counted ?_
  cases read : ofCategory room level.operands stream with
  | error error => exact .here _
  | ok result =>
      obtain ⟨left, rest⟩ := result
      exact inside_chaining operands counted left rest

/-- The calls for an expression come back if those for its factors do. -/
theorem comesBack_expression (factors : ComesBack room .factor)
    : ComesBack room (.chain .additive) :=
  have powers : ComesBack room (.chain .exponential) := comesBack_chain factors
  have terms : ComesBack room (.chain .multiplicative) := comesBack_chain powers
  comesBack_chain terms

/-- A sign or a function takes one factor and puts its node on top. -/
theorem inside_application (factors : ComesBack room .factor)
    (counted : depth + room = maxNesting) (application : Application) (stream : TokenStream)
    : Inside stack (.calling .factor stream (.node application) depth stack)
        (.back
          (do
            let (operand, rest) ← factor room (← stream.settle)
            return (← operand.withNode application.node, rest))
          depth stack) := by
  refine factors.calling counted (fun error failed => ?_) fun settled passed => ?_
  · rw [failed]
    rfl
  · rw [passed, ok_bind]
    change Inside stack
      (Frame.resume (.node application) (factor room settled) depth stack) _
    cases read : factor room settled with
    | error error => exact .here _
    | ok result => exact .here _

/-- A parenthesis is closed behind the expression in it. -/
theorem inside_parens (expressions : ComesBack room (.chain .additive))
    (counted : depth + room = maxNesting) (stream : TokenStream)
    : Inside stack (.calling (.chain .additive) stream .close depth stack)
        (.back
          (do
            let (inner, rest) ← expression (factor room) (← stream.settle)
            return (inner, ← expect .rightParen .rightParen rest))
          depth stack) := by
  refine expressions.calling counted (fun error failed => ?_) fun settled passed => ?_
  · rw [failed]
    rfl
  · rw [passed, ok_bind, expression_factor]
    cases read : ofCategory room (.chain .additive) settled with
    | error error => exact .here _
    | ok result => exact .here _

/-- A factor takes what its first token wants, and comes back with what its reader gives. -/
theorem inside_entering (factors : ComesBack room .factor) (counted : depth + room = maxNesting)
    (stream : TokenStream)
    : Inside stack (.entering stream depth stack)
        (.back (factor (room + 1) stream) depth stack) := by
  unfold Point.entering
  split
  · exact .here _
  · exact .here _
  · exact .here _
  · exact .here _
  · exact .here _
  · exact inside_application factors counted (.function _) _
  · exact inside_parens (comesBack_expression factors) counted _
  · rename_i op rest
    rw [factor]
    cases op.sign? with
    | some kind => exact inside_application factors counted (.sign kind) rest
    | none => exact .here _
  · exact .here _

/-- Every call for a factor comes back, by induction on the room for it. -/
theorem comesBack_factor (room : Nat) : ComesBack room .factor := by
  induction room with
  | zero =>
      intro depth stream stack counted
      have full : maxNesting ≤ depth := by omega
      rw [Point.step, if_pos full]
      cases stream <;> exact .here _
  | succ room ih =>
      intro depth stream stack counted
      have within : ¬maxNesting ≤ depth := by omega
      have raised : depth + 1 + room = maxNesting := by omega
      rw [Point.step, if_neg within]
      -- The counter is raised at once, and lowered again behind whatever comes back.
      have entered
          : Inside (.factor :: stack) (.entering stream (depth + 1) (.factor :: stack))
              (.back (factor (room + 1) stream) (depth + 1) (.factor :: stack)) :=
        inside_entering ih raised stream
      exact entered.outer.trans (.step (above_cons _ _) (.here _))

/-- Every call comes back. -/
theorem comesBack_ofCategory (room : Nat) (category : Category) : ComesBack room category := by
  have factors := comesBack_factor room
  have powers : ComesBack room (.chain .exponential) := comesBack_chain factors
  rcases category with _ | level
  · exact factors
  · cases level with
    | additive => exact comesBack_expression factors
    | multiplicative => exact comesBack_chain powers
    | exponential => exact powers

end Calls

end Formulary.Reader
