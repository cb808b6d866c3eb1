import Formulary.Proofs.CommandLine.ReportedRuns

/-! Runs which show the tokens first. Nothing else depends on whether they do, neither what is
written behind the tokens nor the exit code.
-/

namespace Formulary.CommandLine

-----------------------------------------------------------------------------------------
-- Reports behind what has been written
-----------------------------------------------------------------------------------------

/-- The report of a run which had written something before. -/
def Report.behind (report : Report) (written : String) : Report :=
  { report with stdout := written ++ report.stdout }

/-- What is written later stands behind what was written before. -/
theorem Report.behind_append (report : Report) (before after : String)
    : report.behind (before ++ after) = (report.behind after).behind before := by
  simp [behind, String.append_assoc]

/-- A failure is the same behind whatever has been written. -/
theorem failure_eq_behind (written context : String) (error : Error)
    : failure written context error = (failure "" context error).behind written := by
  simp [failure, Report.behind]

/-- A formula is evaluated alike behind whatever has been written. -/
theorem evaluationReport_eq_behind (written : String) (settings : Settings) (formula : Formula)
    : evaluationReport written settings formula
      = (evaluationReport "" settings formula).behind written := by
  unfold evaluationReport
  simp only
  split
  · exact failure_eq_behind _ _ _
  · split <;> simp [Report.behind]

/-- A text is read, shown and evaluated alike behind whatever has been written. -/
theorem formulaReport_eq_behind (written : String) (settings : Settings) (text : String)
    : formulaReport written settings text
      = (formulaReport "" settings text).behind written := by
  cases read : Formula.parse text with
  | error error =>
      rw [formulaReport_of_error read, formulaReport_of_error read]
      exact failure_eq_behind _ _ _
  | ok formula =>
      rw [formulaReport_of_parse read, formulaReport_of_parse read, evaluationReport_eq_behind,
        evaluationReport_eq_behind ("" ++ _), Report.behind_append, String.empty_append]

-----------------------------------------------------------------------------------------
-- Runs with and without the tokens
-----------------------------------------------------------------------------------------

namespace Settings

variable {settings : Settings}

/-- The same settings but for whether the tokens are shown. -/
def showTokens (settings : Settings) (shown : Bool) : Settings :=
  { settings with tokens := shown }

/-- Where there are tokens, they are shown in front of everything else. -/
theorem report_of_tokenize {tokens : List Token}
    (lexed : tokenize settings.formulaText = .ok tokens)
    : (settings.showTokens true).report
      = (settings.showTokens false).report.behind (tokenBlock tokens) := by
  have telling
      : (settings.showTokens true).report
        = formulaReport (tokenBlock tokens) (settings.showTokens true) settings.formulaText := by
    rw [formulaText] at lexed
    simp only [report, showTokens, lexed, formulaText, if_true]
  rw [telling, formulaReport_eq_behind, @report_of_quiet (settings.showTokens false) rfl]
  rfl

/-- Where the text has no tokens, it is no formula either, and nothing is shown. -/
theorem report_of_tokenize_error {error : Error}
    (failed : tokenize settings.formulaText = .error error) (shown : Bool)
    : (settings.showTokens shown).report.exitCode = 1
      ∧ (settings.showTokens shown).report.stdout = "" := by
  cases shown with
  | false =>
      cases read : Formula.parse settings.formulaText with
      | ok formula =>
          obtain ⟨_, _, lexed, _⟩ := Formula.parse_eq_ok_iff.mp read
          cases failed.symm.trans lexed
      | error error' =>
          rw [@report_of_error (settings.showTokens false) rfl error' read]
          exact ⟨rfl, rfl⟩
  | true =>
      rw [formulaText] at failed
      simp [report, showTokens, failed, failure]

end Settings

/-- Showing the tokens only adds output. Whatever the formula, the values, the format and the
strictness are, the exit code is the same with and without the tokens. Where the text has
tokens, their block stands in front of what is written without them, and what is told about a
failure is the same. Where the text has none, either run writes nothing. So it is with any
arguments which a parser takes for the same settings but for the tokens.
-/
theorem report_showTokens (settings : Settings)
    : let telling := (settings.showTokens true).report
      let quiet := (settings.showTokens false).report
      telling.exitCode = quiet.exitCode
      ∧ (∀ tokens,
          tokenize settings.formulaText = .ok tokens
          → telling = { quiet with stdout := tokenBlock tokens ++ quiet.stdout })
      ∧ (∀ error,
          tokenize settings.formulaText = .error error
          → telling.stdout = "" ∧ quiet.stdout = "")
      ∧ ∀ parse arguments arguments',
          parse arguments = .ok (settings.showTokens false)
          → parse arguments' = .ok (settings.showTokens true)
          → runWith parse arguments = quiet ∧ runWith parse arguments' = telling := by
  intro telling quiet
  refine ⟨?_, fun tokens => Settings.report_of_tokenize, ?_, ?_⟩
  · cases lexed : tokenize settings.formulaText with
    | ok tokens =>
        have shown : telling = quiet.behind (tokenBlock tokens) :=
          Settings.report_of_tokenize lexed
        rw [shown, Report.behind]
    | error error =>
        have refused := Settings.report_of_tokenize_error lexed
        exact (refused true).1.trans (refused false).1.symm
  · intro error failed
    have refused := Settings.report_of_tokenize_error failed
    exact ⟨(refused true).2, (refused false).2⟩
  · intro parse arguments arguments' accepted accepted'
    exact ⟨runWith_of_ok accepted, runWith_of_ok accepted'⟩

/-- A formula which lacks an operand is shown as tokens before it is refused. One with a
character of no token is refused without them, although a parenthesis is wrong before.
-/
theorem report_showTokens_refused
    : let parse (arguments : List String) : Except Report Settings :=
        match arguments with
        | ["-f", text] => .ok { formula := some text }
        | ["--tokens", "-f", text] => .ok { formula := some text, tokens := true }
        | _ => .error (.mk 2 "" "error: unexpected argument found")
      let lacking := ["-f", "2+"]
      let misspelled := ["-f", ")%"]
      runWith parse ("--tokens" :: lacking)
        = {
            runWith parse lacking with
            stdout :=
              tokenBlock [.number (.integer 2), .operator .add] ++ (runWith parse lacking).stdout
          }
      ∧ (runWith parse ("--tokens" :: misspelled)).exitCode = (runWith parse misspelled).exitCode
      ∧ (runWith parse ("--tokens" :: misspelled)).stdout = ""
      ∧ (runWith parse misspelled).stdout = "" := by
  intro parse lacking misspelled
  obtain ⟨_, shown, _, ofLacking⟩ := report_showTokens { formula := some "2+" }
  obtain ⟨sameCode, _, refused, ofMisspelled⟩ := report_showTokens { formula := some ")%" }
  obtain ⟨quiet, telling⟩ := ofLacking parse lacking ("--tokens" :: lacking) rfl rfl
  obtain ⟨quiet', telling'⟩ := ofMisspelled parse misspelled ("--tokens" :: misspelled) rfl rfl
  rw [quiet, telling, quiet', telling']
  exact ⟨shown _ (by cbv), sameCode, refused (.unexpectedChar '%' 1 (some ')')) (by cbv)⟩

end Formulary.CommandLine
