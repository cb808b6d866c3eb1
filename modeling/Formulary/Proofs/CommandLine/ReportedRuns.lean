import Formulary.CommandLine.Output
import Formulary.Proofs.Compiling.ComputedValues

/-! What a run of the command line reports. A formula which is read and whose variables suit
the values is evaluated, and the last line is the call with its value. Any other run ends
before it has a value to show.
-/

namespace Formulary.CommandLine

-----------------------------------------------------------------------------------------
-- Values and calls are shown in one line
-----------------------------------------------------------------------------------------

/-- The characters hold no line feed. -/
def isLine (chars : List Char) : Bool :=
  chars.all (· != '\n')

@[simp]
theorem isLine_append (first second : List Char)
    : isLine (first ++ second) = (isLine first && isLine second) :=
  List.all_append

@[simp]
theorem isLine_cons (c : Char) (chars : List Char)
    : isLine (c :: chars) = (c != '\n' && isLine chars) :=
  rfl

theorem isLine_of_isDigit {digits : List Char} (all : ∀ c ∈ digits, c.isDigit = true)
    : isLine digits = true :=
  List.all_eq_true.mpr fun c member => eq_of_isDigit (· != '\n') true (by decide) (all c member)

theorem isLine_repr (n : Nat) : isLine n.repr.toList = true := by
  rw [Nat.toList_repr]
  exact isLine_of_isDigit fun _ => isDigit_of_mem_toDigits

/-- Parts in one line make up one line, if what stands between them does, by induction on the
parts.
-/
theorem isLine_intercalate {between : List Char} {parts : List (List Char)}
    (line : isLine between = true) (lines : ∀ part ∈ parts, isLine part = true)
    : isLine (between.intercalate parts) = true := by
  induction parts with
  | nil => rfl
  | cons part rest ih =>
      have front := lines part List.mem_cons_self
      have behind := ih fun other member => lines other (List.mem_cons_of_mem _ member)
      cases rest with
      | nil => simpa [List.intercalate] using front
      | cons next rest =>
          have split
              : between.intercalate (part :: next :: rest)
                = part ++ (between ++ between.intercalate (next :: rest)) := by
            simp [List.intercalate]
          rw [split, isLine_append, isLine_append, front, line, behind]
          rfl

/-- Digits with a point are one line. -/
theorem isLine_positionalDigits {digits : List Char} (all : ∀ c ∈ digits, c.isDigit = true)
    (point : Int)
    : isLine (layout.positionalDigits digits point) = true := by
  have zeros (count : Nat) : isLine (List.replicate count '0') = true := by
    simp [isLine]
  have line := isLine_of_isDigit all
  unfold Decimal.Layout.positionalDigits
  split
  · simp [zeros, line]
  · split
    · simp [zeros, line, layout]
    · have front : isLine (digits.take point.toNat) = true :=
        isLine_of_isDigit fun c member => all c (List.mem_of_mem_take member)
      have behind : isLine (digits.drop point.toNat) = true :=
        isLine_of_isDigit fun c member => all c (List.mem_of_mem_drop member)
      simp [front, behind]

/-- Every value is shown in one line. -/
theorem isLine_text (x : Float) : isLine (layout.text x).toList = true := by
  have magnitude (index : Nat) : isLine (layout.magnitude index) = true := by
    have positional (power : Int) : layout.isPositional power = true := rfl
    simp only [Decimal.Layout.magnitude, positional, if_true]
    split
    · rfl
    · exact isLine_positionalDigits (fun _ => isDigit_of_mem_toDigits) _
  unfold Decimal.Layout.text
  split
  · decide
  · split <;> decide
  · split <;> simp [magnitude]

theorem isLine_valueText (x : Float) : isLine (valueText x).toList = true := by
  unfold valueText
  split
  · rw [Int.repr_eq_if]
    split
    · exact isLine_repr _
    · rw [String.toList_append, isLine_append, isLine_repr]
      rfl
  · exact isLine_text x

/-- A call with its value, as it is shown. -/
def callText (name : String) (arguments : List Float) (value : Float) : String :=
  name ++ "(" ++ ", ".intercalate (arguments.map valueText) ++ ") = " ++ valueText value

/-- A call of a function whose name is one line is one line. -/
theorem isLine_callText {name : String} (line : isLine name.toList = true)
    (arguments : List Float) (value : Float)
    : isLine (callText name arguments value).toList = true := by
  have values : isLine (", ".intercalate (arguments.map valueText)).toList = true := by
    rw [String.toList_intercalate]
    apply isLine_intercalate (by decide)
    intro part member
    obtain ⟨text, inTexts, rfl⟩ := List.mem_map.mp member
    obtain ⟨x, _, rfl⟩ := List.mem_map.mp inTexts
    exact isLine_valueText x
  simp only [callText, String.toList_append, isLine_append, line, values, isLine_valueText]
  decide

-----------------------------------------------------------------------------------------
-- Values which suit a formula
-----------------------------------------------------------------------------------------

namespace Settings

/-- The formula which the run is about. -/
def formulaText (settings : Settings) : String :=
  settings.formula.getD defaultFormula

/-- The values can be given to so many variables: there are none, in which case defaults take
their place, or there are enough, and not too many for a strict run.
-/
def Suits (settings : Settings) (count : Nat) : Prop :=
  settings.arguments = []
  ∨ settings.strict = true ∧ settings.arguments.length = count
  ∨ settings.strict = false ∧ count ≤ settings.arguments.length

/-- The values for so many variables. -/
def values (settings : Settings) (count : Nat) : List Float :=
  if settings.arguments.isEmpty then List.replicate count 2 else settings.arguments

/-- What is asked of the compilation of a formula with so many variables. -/
def compileRequest (settings : Settings) (count : Nat) : CompileRequest :=
  { arity := (settings.values count).length, strict := settings.strict }

theorem defaultValue_eq_two : defaultValue = 2 := by
  decide +kernel

theorem argumentsFor_eq_values (settings : Settings) (formula : Formula)
    : argumentsFor settings.arguments formula = settings.values formula.vars.size := by
  rw [argumentsFor, values, defaultValue_eq_two]

/-- There are as many arguments as are asked for, so a conflict is one with the values given.
-/
theorem conflicts_iff_not_suits {settings : Settings} {count : Nat}
    : (settings.compileRequest count).Conflicts count ↔ ¬settings.Suits count := by
  cases given : settings.arguments with
  | nil => simp [CompileRequest.Conflicts, compileRequest, values, Suits, given]
  | cons value more =>
      cases strict : settings.strict
        <;> simp [CompileRequest.Conflicts, compileRequest, values, Suits, given, strict, eq_comm]

end Settings

-----------------------------------------------------------------------------------------
-- Reports
-----------------------------------------------------------------------------------------

section

variable {settings : Settings} {text : String} {formula : Formula}

/-- A text which is no formula is reported before anything is shown of it. -/
theorem formulaReport_of_error {error : Error} (failed : Formula.parse text = .error error)
    (written : String)
    : formulaReport written settings text
      = failure written ("Failed to parse '" ++ text ++ "'") error := by
  rw [formulaReport, failed]

/-- A formula which has been read is shown and evaluated. -/
theorem formulaReport_of_parse (read : Formula.parse text = .ok formula) (written : String)
    : formulaReport written settings text
      = evaluationReport (written ++ treeBlock (settings.format.getD .text) formula.expr)
          settings formula := by
  rw [formulaReport, read]

/-- Values which do not suit the variables are reported, and nothing is evaluated. -/
theorem evaluationReport_of_not_suits (unsuited : ¬settings.Suits formula.vars.size)
    (written : String)
    : evaluationReport written settings formula
      = failure written "Failed to compile formula"
          (.arityMismatch formula.vars.size settings.arguments.length settings.strict) := by
  have refused := Formula.compile_of_conflicts (Settings.conflicts_iff_not_suits.mpr unsuited)
  have given : settings.values formula.vars.size = settings.arguments :=
    if_neg (by simpa using fun empty => unsuited (.inl empty))
  rw [Settings.compileRequest, given] at refused
  rw [evaluationReport]
  simp only [Settings.argumentsFor_eq_values, given, refused]

/-- Values which suit the variables can be given to them. -/
theorem exists_binds_of_suits (suits : settings.Suits formula.vars.size)
    : ∃ assignment,
        formula.vars.Binds (settings.values formula.vars.size).toArray assignment := by
  have fits := mt Settings.conflicts_iff_not_suits.mp (not_not.mpr suits)
  exact VarSet.exists_binds (CompileRequest.le_of_not_conflicts fits)

/-- Values which suit the variables are arguments for the formula. -/
theorem compile_of_suits (read : Formula.parse text = .ok formula)
    (suits : settings.Suits formula.vars.size)
    : ∃ evaluator,
        formula.compile (settings.compileRequest formula.vars.size) = .ok evaluator
        ∧ evaluator.name = "fun"
        ∧ ∀ assignment,
            formula.vars.Binds (settings.values formula.vars.size).toArray assignment
            → evaluator.call (settings.values formula.vars.size).toArray
              = .ok (formula.expr.eval assignment) := by
  have fits := mt Settings.conflicts_iff_not_suits.mp (not_not.mpr suits)
  obtain ⟨program, _, compiled⟩ := Formula.compile_of_parse read fits
  have compiled' := compiled
  rw [Formulary.compile, read, Outcomes.ok_bind] at compiled'
  exact ⟨_, compiled', rfl, fun assignment binds => Formula.call_of_binds read compiled rfl binds⟩

/-- Values which suit the variables are evaluated, and the value is shown. -/
theorem evaluationReport_of_suits (read : Formula.parse text = .ok formula)
    (suits : settings.Suits formula.vars.size) (written : String)
    {assignment : UInt64 → Float}
    (binds : formula.vars.Binds (settings.values formula.vars.size).toArray assignment)
    : evaluationReport written settings formula
      = {
          exitCode := 0
          stdout := written
            ++ resultBlock "fun" (settings.values formula.vars.size)
                (formula.expr.eval assignment)
          stderr := ""
        } := by
  obtain ⟨evaluator, compiled, name, calls⟩ := compile_of_suits read suits
  rw [Settings.compileRequest] at compiled
  rw [evaluationReport]
  simp only [Settings.argumentsFor_eq_values, compiled, calls assignment binds, name]

/-- Without the token block the report is that of the formula. -/
theorem report_of_quiet (quiet : settings.tokens = false)
    : settings.report = formulaReport "" settings settings.formulaText := by
  simp [Settings.report, Settings.formulaText, quiet]

/-- Of a text which is no formula nothing is shown. -/
theorem report_of_error (quiet : settings.tokens = false) {error : Error}
    (failed : Formula.parse settings.formulaText = .error error)
    : settings.report
      = failure "" ("Failed to parse '" ++ settings.formulaText ++ "'") error := by
  rw [report_of_quiet quiet, formulaReport_of_error failed]

/-- Where the values do not suit the variables, only the tree is shown. -/
theorem report_of_not_suits (quiet : settings.tokens = false)
    (read : Formula.parse settings.formulaText = .ok formula)
    (unsuited : ¬settings.Suits formula.vars.size)
    : settings.report
      = failure (treeBlock (settings.format.getD .text) formula.expr)
          "Failed to compile formula"
          (.arityMismatch formula.vars.size settings.arguments.length settings.strict) := by
  rw [report_of_quiet quiet, formulaReport_of_parse read, evaluationReport_of_not_suits unsuited,
    String.empty_append]

/-- Where the values suit the variables, the tree and the value are shown. -/
theorem report_of_suits (quiet : settings.tokens = false)
    (read : Formula.parse settings.formulaText = .ok formula)
    (suits : settings.Suits formula.vars.size) {assignment : UInt64 → Float}
    (binds : formula.vars.Binds (settings.values formula.vars.size).toArray assignment)
    : settings.report
      = {
          exitCode := 0
          stdout := treeBlock (settings.format.getD .text) formula.expr ++ "\n"
            ++ banner "Evaluation Result"
            ++ callText "fun" (settings.values formula.vars.size) (formula.expr.eval assignment)
            ++ "\n"
          stderr := ""
        } := by
  rw [report_of_quiet quiet, formulaReport_of_parse read,
    evaluationReport_of_suits read suits _ binds]
  simp [resultBlock, callText, String.append_assoc]

/-- Without values it does not matter whether the run is strict. -/
theorem report_strict (quiet : settings.tokens = false) (none : settings.arguments = [])
    (strict : Bool)
    : { settings with strict := strict }.report = settings.report := by
  have suits (count : Nat) : settings.Suits count := .inl none
  have suits' (count : Nat) : { settings with strict := strict }.Suits count := .inl none
  have quiet' : { settings with strict := strict }.tokens = false := quiet
  cases read : Formula.parse settings.formulaText with
  | error error => rw [report_of_error quiet read, report_of_error quiet' read]; rfl
  | ok formula =>
      obtain ⟨assignment, binds⟩ := exists_binds_of_suits (suits formula.vars.size)
      rw [report_of_suits quiet read (suits _) binds,
        report_of_suits quiet' read (suits' _) binds]
      rfl

/-- Arguments which are accepted give the report of their settings. -/
theorem runWith_of_ok {parse : List String → Except Report Settings} {arguments : List String}
    (accepted : parse arguments = .ok settings)
    : runWith parse arguments = settings.report := by
  rw [runWith, accepted]

/-- A run succeeds exactly if its formula can be read and its values suit the variables. -/
theorem exitCode_eq_zero_iff (quiet : settings.tokens = false)
    : settings.report.exitCode = 0
      ↔ ∃ formula,
          Formula.parse settings.formulaText = .ok formula
          ∧ settings.Suits formula.vars.size := by
  cases read : Formula.parse settings.formulaText with
  | error error => simp [report_of_error quiet read, failure]
  | ok formula =>
      by_cases suits : settings.Suits formula.vars.size
      · obtain ⟨assignment, binds⟩ := exists_binds_of_suits suits
        simp [report_of_suits quiet read suits binds, suits]
      · simp [report_of_not_suits quiet read suits, failure, suits]

end

/-- The line is the last one of the text. -/
def IsLastLine (line text : String) : Prop :=
  isLine line.toList = true ∧ ∃ before, text = before ++ "\n" ++ line ++ "\n"

/-- The call is the last line behind the banner. -/
theorem isLastLine_callText (before : String) (arguments : List Float) (value : Float)
    : IsLastLine (callText "fun" arguments value)
        (before ++ "\n" ++ banner "Evaluation Result" ++ callText "fun" arguments value
          ++ "\n") := by
  have front : ∃ front, banner "Evaluation Result" = front ++ "\n" := ⟨_, rfl⟩
  obtain ⟨front, split⟩ := front
  refine ⟨isLine_callText (by decide) arguments value, before ++ "\n" ++ front, ?_⟩
  simp only [split, String.append_assoc]

/-- What a run reports which shows no tokens, whichever parser has accepted its arguments. It
succeeds exactly if its formula can be read and its values suit the variables. Then the last line
is the call with its value, the variables having the values in ascending order. A text which is no
formula is reported with nothing shown, and values which do not suit with the tree alone. Neither
the unit nor the call is ever at fault, and a run without values does the same if it is strict.
-/
theorem report_outcome {settings : Settings} (quiet : settings.tokens = false)
    : let tree := treeBlock (settings.format.getD .text)
      (settings.report.exitCode = 0
        ↔ ∃ formula,
            Formula.parse settings.formulaText = .ok formula
            ∧ settings.Suits formula.expr.vars.size)
      ∧ (∀ error,
          Formula.parse settings.formulaText = .error error
          → settings.report
            = {
                exitCode := 1
                stdout := ""
                stderr := "Error: " ++ ("Failed to parse '" ++ settings.formulaText ++ "'")
                  ++ "\n\nCaused by:\n    " ++ error.message ++ "\n"
              })
      ∧ (∀ formula,
          Formula.parse settings.formulaText = .ok formula
          → let count := formula.expr.vars.size
            let values := settings.values count
            (¬settings.Suits count
              → settings.report
                = {
                    exitCode := 1
                    stdout := tree formula.expr
                    stderr := "Error: " ++ "Failed to compile formula"
                      ++ "\n\nCaused by:\n    "
                      ++ (Error.arityMismatch count settings.arguments.length
                          settings.strict).message
                      ++ "\n"
                  })
            ∧ (settings.Suits count
              → (∃ assignment, formula.expr.vars.Binds values.toArray assignment)
                ∧ ∀ assignment,
                    formula.expr.vars.Binds values.toArray assignment
                    → let call := callText "fun" values (formula.expr.eval assignment)
                      settings.report
                        = {
                            exitCode := 0
                            stdout := tree formula.expr ++ "\n" ++ banner "Evaluation Result"
                              ++ call ++ "\n"
                            stderr := ""
                          }
                      ∧ IsLastLine call settings.report.stdout)
            ∧ (∀ fault,
                formula.compile (settings.compileRequest count) ≠ .error (.malformedUnit fault))
            ∧ ∀ evaluator,
                formula.compile (settings.compileRequest count) = .ok evaluator
                → ∃ value, evaluator.call values.toArray = .ok value)
      ∧ (settings.arguments = []
        → ∀ strict, { settings with strict := strict }.report = settings.report)
      ∧ ∀ parse arguments,
          parse arguments = .ok settings → runWith parse arguments = settings.report := by
  refine ⟨?_, fun error => report_of_error quiet, ?_, report_strict quiet, fun parse => ?_⟩
  · refine (exitCode_eq_zero_iff quiet).trans (exists_congr fun formula => ?_)
    refine and_congr_right fun read => ?_
    rw [Formula.vars_of_parse read]
  · intro formula read
    rw [← Formula.vars_of_parse read]
    refine ⟨report_of_not_suits quiet read, ?_, ?_⟩
    · intro suits
      refine ⟨exists_binds_of_suits suits, fun assignment binds => ?_⟩
      have shown := report_of_suits quiet read suits binds
      refine ⟨shown, ?_⟩
      rw [shown]
      exact isLastLine_callText _ _ _
    · by_cases suits : settings.Suits formula.vars.size
      · obtain ⟨assignment, binds⟩ := exists_binds_of_suits suits
        obtain ⟨evaluator, compiled, _, calls⟩ := compile_of_suits read suits
        constructor
        · intro fault failed
          cases compiled.symm.trans failed
        · intro other compiled'
          cases compiled.symm.trans compiled'
          exact ⟨_, calls assignment binds⟩
      · have refused := Formula.compile_of_conflicts (Settings.conflicts_iff_not_suits.mpr suits)
        constructor
        · intro fault failed
          cases refused.symm.trans failed
        · intro evaluator compiled
          cases refused.symm.trans compiled
  · intro arguments accepted
    exact runWith_of_ok accepted

/-- The difference of two variables. A strict run shows it of two values, and stops behind
the tree if there is one value only.
-/
theorem report_outcome_difference
    : let expr := Expr.binary .subtract (.var 0) (.var 3)
      let two : Settings := { formula := some "X0 - x3", arguments := [2, 5], strict := true }
      let one : Settings := { formula := some "X0 - x3", arguments := [2], strict := true }
      (two.tokens = false ∧ one.tokens = false)
      ∧ (two.report.exitCode = 0 ∧ IsLastLine "fun(2, 5) = -3" two.report.stdout)
      ∧ (one.report.exitCode = 1 ∧ one.report.stdout = treeBlock .text expr) := by
  intro expr two one
  have read : Formula.parse "X0 - x3" = .ok { expr := expr, vars := expr.vars } := by cbv
  obtain ⟨succeeds, _, outcome, _⟩ := @report_outcome two rfl
  obtain ⟨_, shown, _⟩ := outcome _ read
  obtain ⟨_, _, failed, _⟩ := @report_outcome one rfl
  obtain ⟨refused, _⟩ := failed _ read
  have suits : two.Suits 2 := .inr (.inl ⟨rfl, rfl⟩)
  have unsuited : ¬one.Suits 2 := by simp [Settings.Suits, one]
  let assignment (index : UInt64) : Float := if index = 0 then 2 else 5
  have binds : expr.vars.Binds #[2, 5] assignment := by
    intro rank index here
    rcases rank with _ | _ | rank
    · cases here
      rfl
    · cases here
      rfl
    · cases here
  have text : callText "fun" [2, 5] (expr.eval assignment) = "fun(2, 5) = -3" := by
    decide +kernel
  refine ⟨⟨rfl, rfl⟩, ⟨succeeds.mpr ⟨_, read, suits⟩, ?_⟩, ?_⟩
  · rw [← text]
    exact ((shown suits).2 assignment binds).2
  · rw [refused unsuited]
    exact ⟨rfl, rfl⟩

end Formulary.CommandLine
