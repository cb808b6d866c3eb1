import Formulary.Formula
import Formulary.Proofs.Reading.CallStack

/-! The two counters of the reader at every point of a run. The one which factors raise and lower
is the number of factors in progress, and the height kept with a tree is the height of that tree.
Neither is ever more than may be nested.
-/

namespace Formulary

open Outcomes

namespace Operand

/-- The height kept with the tree is the height of the tree, and the tree is not too high. -/
structure Measured (operand : Operand) : Prop where
  exact : operand.height = operand.expr.height
  low : operand.height ≤ maxNesting

theorem measured_leaf {expr : Expr} (single : expr.height = 1) : (leaf expr).Measured :=
  ⟨single.symm, (by decide : 1 ≤ maxNesting)⟩

theorem measured_var (index : UInt64) : (var index).Measured :=
  ⟨rfl, (by decide : 1 ≤ maxNesting)⟩

/-- A node may go on top of less than the highest tree only. -/
theorem heightOver_eq_ok {below height : Nat} (fits : heightOver below = .ok height)
    : height = below + 1 ∧ height ≤ maxNesting := by
  unfold heightOver at fits
  split at fits
  · cases fits
  · cases fits
    omega

variable {operand left right tree : Operand}

/-- One more node on top is counted. -/
theorem Measured.withNode (measured : operand.Measured) {node : Expr → Expr}
    (higher : (node operand.expr).height = operand.expr.height + 1)
    (wrapped : operand.withNode node = .ok tree)
    : tree.Measured := by
  obtain ⟨height, fits, returned⟩ := bind_eq_ok_iff.mp wrapped
  obtain ⟨grown, low⟩ := heightOver_eq_ok fits
  cases returned
  exact ⟨by rw [grown, higher, measured.exact], low⟩

/-- An operation is one higher than the higher one of its sides. -/
theorem Measured.join (first : left.Measured) (last : right.Measured) {op : Operator}
    (joined : left.join op right = .ok tree)
    : tree.Measured := by
  obtain ⟨height, fits, returned⟩ := bind_eq_ok_iff.mp joined
  obtain ⟨grown, low⟩ := heightOver_eq_ok fits
  cases returned
  exact ⟨by rw [grown, first.exact, last.exact]; rfl, low⟩

end Operand

namespace Reader

-----------------------------------------------------------------------------------------
-- Exact counters
-----------------------------------------------------------------------------------------

/-- The frame keeps an operand only with its true height. -/
def Frame.Waits : Frame → Prop
  | join _ left _ => left.Measured
  | _ => True

/-- The counter is the number of factors in progress, of which there are not too many, and what
waits in the frames is measured.
-/
structure Counts (depth : Nat) (stack : List Frame) : Prop where
  counted : depth = stack.countP Frame.isFactor
  bounded : depth ≤ maxNesting
  waiting : ∀ frame ∈ stack, frame.Waits

/-- What comes back, if it is a tree, is measured. -/
def Answers (outcome : Except Error (Operand × TokenStream)) : Prop :=
  ∀ operand rest, outcome = .ok (operand, rest) → operand.Measured

/-- Both counters are exact at a point of a run. -/
structure Exact (point : Point) : Prop where
  counts : Counts point.depth point.stack
  answers : ∀ outcome, point.control = .back outcome → Answers outcome

theorem answers_error (error : Error) : Answers (.error error) :=
  nofun

section Counting

variable {depth : Nat} {stack : List Frame} {frame : Frame}

/-- The frame of another call than a factor does not count. -/
theorem Counts.push (counts : Counts depth stack) (other : frame.isFactor = false)
    (waits : frame.Waits)
    : Counts depth (frame :: stack) where
  counted := by simpa [other] using counts.counted
  bounded := counts.bounded
  waiting := List.forall_mem_cons.mpr ⟨waits, counts.waiting⟩

/-- A factor which begins is counted. -/
theorem Counts.enter (counts : Counts depth stack) (within : depth < maxNesting)
    : Counts (depth + 1) (.factor :: stack) where
  counted := by rw [List.countP_cons_of_pos rfl, counts.counted]
  bounded := within
  waiting := List.forall_mem_cons.mpr ⟨trivial, counts.waiting⟩

/-- A factor which is left is counted no more. -/
theorem Counts.leave (counts : Counts depth (.factor :: stack)) : Counts (depth - 1) stack where
  counted := by rw [counts.counted, List.countP_cons_of_pos rfl, Nat.add_sub_cancel]
  bounded := Nat.le_trans (Nat.sub_le _ _) counts.bounded
  waiting := (List.forall_mem_cons.mp counts.waiting).2

/-- Without the frame of another call the count is the same. -/
theorem Counts.pop (counts : Counts depth (frame :: stack)) (other : frame.isFactor = false)
    : Counts depth stack where
  counted := by simpa [other] using counts.counted
  bounded := counts.bounded
  waiting := (List.forall_mem_cons.mp counts.waiting).2

theorem exact_back (counts : Counts depth stack) {outcome : Except Error (Operand × TokenStream)}
    (answers : Answers outcome)
    : Exact (.back outcome depth stack) where
  counts := counts
  answers _ same := by
    cases same
    exact answers

theorem exact_failed (counts : Counts depth stack) (error : Error)
    : Exact (.back (.error error) depth stack) :=
  exact_back counts (answers_error error)

/-- What is measured comes back together with a stream, if there is one. -/
theorem exact_returned (counts : Counts depth stack) {operand : Operand}
    (measured : operand.Measured) (rest : Except Error TokenStream)
    : Exact (.back (do return (operand, ← rest)) depth stack) := by
  refine exact_back counts fun operand' rest' same => ?_
  obtain ⟨_, _, returned⟩ := bind_eq_ok_iff.mp same
  cases returned
  exact measured

theorem exact_calling (counts : Counts depth stack) (frame : Frame)
    (other : frame.isFactor = false) (waits : frame.Waits) (category : Category)
    (stream : TokenStream)
    : Exact (.calling category stream frame depth stack) := by
  unfold Point.calling
  split
  · exact exact_failed counts _
  · exact ⟨counts.push other waits, nofun⟩

theorem exact_chaining (counts : Counts depth stack) {left : Operand} (measured : left.Measured)
    (level : Precedence) (stream : TokenStream)
    : Exact (.chaining level left stream depth stack) := by
  unfold Point.chaining
  split
  · exact exact_returned counts measured (.ok stream)
  · exact exact_calling counts (.join level left _) rfl measured _ _

/-- A factor is measured if it is one token, and calls another one if not. -/
theorem exact_entering (counts : Counts depth stack) (stream : TokenStream)
    : Exact (.entering stream depth stack) := by
  unfold Point.entering
  split
  · exact exact_failed counts _
  · exact exact_failed counts _
  · exact exact_returned counts (Operand.measured_leaf rfl) _
  · exact exact_returned counts (Operand.measured_var _) _
  · rename_i name rest
    refine exact_back counts fun operand rest same => ?_
    obtain ⟨_, _, opened⟩ := bind_eq_ok_iff.mp same
    obtain ⟨_, _, closed⟩ := bind_eq_ok_iff.mp opened
    obtain ⟨_, _, returned⟩ := bind_eq_ok_iff.mp closed
    cases returned
    exact Operand.measured_leaf rfl
  · exact exact_calling counts (.node (.function _)) rfl trivial _ _
  · exact exact_calling counts .close rfl trivial _ _
  · split
    · exact exact_calling counts (.node (.sign _)) rfl trivial _ _
    · exact exact_failed counts _
  · exact exact_failed counts _

/-- The frame behind a call keeps both counters exact, whatever the call comes back with. -/
theorem exact_resume (counts : Counts depth (frame :: stack))
    {outcome : Except Error (Operand × TokenStream)} (answers : Answers outcome)
    : Exact (frame.resume outcome depth stack) := by
  unfold Frame.resume
  split
  · exact exact_back counts.leave answers
  · rename_i error other
    have notFactor : frame.isFactor = false := by cases frame <;> simp_all [Frame.isFactor]
    exact exact_failed (counts.pop notFactor) error
  · rename_i application operand rest
    refine exact_back (counts.pop rfl) fun tree rest' same => ?_
    obtain ⟨_, wrapped, returned⟩ := bind_eq_ok_iff.mp same
    cases returned
    exact (answers operand rest rfl).withNode (by cases application <;> rfl) wrapped
  · exact exact_returned (counts.pop rfl) (answers _ _ rfl) _
  · exact exact_chaining (counts.pop rfl) (answers _ _ rfl) _ _
  · rename_i level left op right rest
    split
    · exact exact_failed (counts.pop rfl) _
    · rename_i tree joined
      have waited : left.Measured := counts.waiting _ List.mem_cons_self
      exact exact_chaining (counts.pop rfl) (waited.join (answers right rest rfl) joined) _ _

end Counting

/-- A step keeps both counters exact. -/
theorem exact_step {point : Point} (exact : Exact point) : Exact point.step := by
  obtain ⟨control, depth, stack⟩ := point
  obtain ⟨counts, answers⟩ := exact
  cases control with
  | call category stream =>
      cases category with
      | chain level => exact ⟨counts.push rfl trivial, nofun⟩
      | factor =>
          rw [Point.step]
          split
          · exact exact_failed counts _
          · rename_i within
            exact exact_entering (counts.enter (Nat.not_le.mp within)) stream
  | back outcome =>
      cases stack with
      | nil => exact ⟨counts, answers⟩
      | cons frame stack => exact exact_resume counts (answers outcome rfl)

/-- A run keeps both counters exact, by induction on its steps. -/
theorem exact_after {point : Point} (exact : Exact point) (count : Nat)
    : Exact (point.after count) := by
  induction count generalizing point with
  | zero => exact exact
  | succ count ih => exact ih (exact_step exact)

-----------------------------------------------------------------------------------------
-- Runs
-----------------------------------------------------------------------------------------

/-- The point before the first call, which is for a whole expression. -/
def Point.start (stream : TokenStream) : Point :=
  { control := .call (.chain .additive) stream, depth := 0, stack := [] }

theorem exact_start (stream : TokenStream) : Exact (.start stream) :=
  ⟨⟨rfl, Nat.zero_le _, nofun⟩, nofun⟩

/-- A run goes on where its first steps end, by induction on these. -/
theorem Point.after_add (point : Point) (count more : Nat)
    : point.after (count + more) = (point.after count).after more := by
  induction count generalizing point with
  | zero => rw [Nat.zero_add, after]
  | succ count ih => rw [Nat.succ_add, after, ih, after]

/-- Every call comes back, and until then all calls in progress are still in progress, with the
one which has been made above them.
-/
theorem Point.exists_back {point : Point} {category : Category} {stream : TokenStream}
    (called : point.control = .call category stream) (bounded : point.depth ≤ maxNesting)
    : ∃ later > 0,
        point.after later
          = .back (ofCategory (maxNesting - point.depth) category stream) point.depth point.stack
        ∧ ∀ between > 0, between < later → Above point.stack (point.after between).stack := by
  obtain ⟨control, depth, stack⟩ := point
  cases called
  have counted : depth + (maxNesting - depth) = maxNesting := Nat.add_sub_of_le bounded
  obtain ⟨count, reached, above⟩ :=
    (comesBack_ofCategory _ category depth stream stack counted).exists_after
  refine ⟨count + 1, Nat.succ_pos _, reached, fun between begun within => ?_⟩
  obtain ⟨earlier, rfl⟩ := Nat.exists_eq_add_of_lt begun
  rw [Nat.zero_add]
  exact above earlier (by omega)

/-- Once the first call has come back nothing happens any more, by induction on the steps. -/
theorem Point.after_back (outcome : Except Error (Operand × TokenStream)) (depth count : Nat)
    : (back outcome depth []).after count = back outcome depth [] := by
  induction count with
  | zero => rfl
  | succ count ih => exact ih

/-- The trees of formulas are those of the reader, which are never too high. -/
theorem exists_tree_of_ofStream {stream : TokenStream} {formula : Formula}
    (read : Formula.ofStream stream = .ok formula)
    : ∃ tree,
        ofCategory maxNesting (.chain .additive) stream = .ok (tree, .finish)
        ∧ formula.expr = tree.expr := by
  obtain ⟨settled, passed, readTree⟩ := bind_eq_ok_iff.mp read
  obtain ⟨rfl, _⟩ := TokenStream.settle_eq_ok passed
  obtain ⟨⟨tree, rest⟩, readExpression, ended⟩ := bind_eq_ok_iff.mp readTree
  cases rest with
  | fault error | token found rest => cases ended
  | finish =>
      cases ended
      exact ⟨tree, readExpression, rfl⟩

/-- At every point of every run the counter is the number of factors in progress, and at most
256. A tree which comes back has the height which is kept with it, at most 256. Every call comes
back with what the reader of its category gives where the counter leaves so much room, a tree or
a failure, and then the counter is what it was at the call. The run ends with what the whole
expression is read as, so no formula is a higher tree.
-/
theorem run_counts_exactly (stream : TokenStream)
    : let point := (Point.start stream).after
      (∀ count,
        let here := point count
        here.depth = here.stack.countP Frame.isFactor
        ∧ here.depth ≤ 256
        ∧ (∀ tree rest,
            here.control = .back (.ok (tree, rest))
            → tree.height = tree.expr.height ∧ tree.height ≤ 256)
        ∧ ∀ category front,
            here.control = .call category front
            → ∃ later > count,
                point later
                  = .back (ofCategory (256 - here.depth) category front) here.depth here.stack
                ∧ ∀ between > count, between < later → Above here.stack (point between).stack)
      ∧ (∃ last,
          ∀ later ≥ last, point later = .back (expression (factor 256) stream) 0 [])
      ∧ ∀ formula,
          Formula.ofStream stream = .ok formula
          → ∃ tree,
              expression (factor 256) stream = .ok (tree, .finish)
              ∧ formula.expr = tree.expr
              ∧ formula.expr.height ≤ 256 := by
  intro point
  have exact (count : Nat) : Exact (point count) := exact_after (exact_start stream) count
  -- The first call ends the run when it comes back.
  obtain ⟨last, _, ended, _⟩ := @Point.exists_back (.start stream) _ _ rfl (Nat.zero_le _)
  have whole : point last = .back (ofCategory 256 (.chain .additive) stream) 0 [] := ended
  refine ⟨fun count => ⟨(exact count).counts.counted, (exact count).counts.bounded, ?_, ?_⟩,
    ⟨last, fun later ordered => ?_⟩, fun formula read => ?_⟩
  · intro tree rest returned
    obtain ⟨same, low⟩ := (exact count).answers _ returned tree rest rfl
    exact ⟨same, low⟩
  · intro category front called
    obtain ⟨later, begun, reached, above⟩ :=
      Point.exists_back called (exact count).counts.bounded
    have shifted (more : Nat) : point (count + more) = (point count).after more :=
      Point.after_add _ count more
    refine ⟨count + later, by omega, (shifted later).trans reached, fun between past within => ?_⟩
    obtain ⟨more, rfl⟩ := Nat.exists_eq_add_of_lt past
    rw [Nat.add_assoc, shifted]
    exact above (more + 1) (by omega) (by omega)
  · obtain ⟨more, rfl⟩ := Nat.exists_eq_add_of_le ordered
    rw [show point (last + more) = (point last).after more from Point.after_add _ last more, whole]
    exact Point.after_back _ _ _
  · obtain ⟨tree, returned, same⟩ := exists_tree_of_ofStream read
    have answers : Answers (ofCategory 256 (.chain .additive) stream) :=
      (exact last).answers _ (by rw [whole]; rfl)
    obtain ⟨exactly, low⟩ := answers tree .finish returned
    refine ⟨tree, returned, same, ?_⟩
    rw [same, ← exactly]
    exact low

end Reader

end Formulary
