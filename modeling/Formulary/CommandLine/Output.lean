import Formulary.CommandLine.Settings
import Formulary.Compilation
import Formulary.Expr.Json

/-! What a run of the command line writes: the tokens if they are asked for, the tree, and
the value of the formula. A failure ends the report where it occurs.
-/

namespace Formulary.CommandLine

/-- The outcome of a run. -/
structure Report where
  exitCode : Nat
  stdout : String
  stderr : String
deriving DecidableEq

/-- The formula which is taken without one in the arguments. -/
def defaultFormula : String :=
  "ROUND(2^1 + 2^3 + EXP(5*LN(x)))"

/-- The value which every variable has if none is given. -/
def defaultValue : Float :=
  Binary64.ofInt 2

/-- Values are written without an exponent and without `.0`, and a tie goes to the larger
digits.
-/
def layout : Decimal.Layout :=
  { tie := .up, positional := none, pointZero := false, plusSign := false }

/-- A value as it is shown. Values below `10 ^ 15` with nothing behind the point are shown as
integers of 64 bits.
-/
def valueText (x : Float) : String :=
  if Binary64.fraction x == 0 && x.abs < 1e15 then x.toModel.toInt64.toInt.repr
  else layout.text x

/-- A title between two lines of its length. -/
def banner (title : String) : String :=
  let line := String.ofList (List.replicate title.length '=')
  line ++ "\n" ++ title ++ "\n" ++ line ++ "\n"

/-- The block of tokens. -/
def tokenBlock (tokens : List Token) : String :=
  banner "Tokens" ++ " ".intercalate (tokens.map Token.text) ++ "\n\n"

/-- The tree in a format. -/
def treeText (format : TreeFormat) (expr : Expr) : String :=
  match format with
  | .text => expr.text
  | .outline => expr.outline.text
  | .json => expr.toJson.pretty

/-- The block of the tree. -/
def treeBlock (format : TreeFormat) (expr : Expr) : String :=
  banner "Abstract Syntax Tree" ++ treeText format expr ++ "\n"

/-- The block of the result, a call with its value. -/
def resultBlock (name : String) (arguments : List Float) (value : Float) : String :=
  "\n" ++ banner "Evaluation Result" ++ name ++ "("
    ++ ", ".intercalate (arguments.map valueText) ++ ") = " ++ valueText value ++ "\n"

/-- The values given, or the default for every variable if there are none. -/
def argumentsFor (given : List Float) (formula : Formula) : List Float :=
  if given.isEmpty then List.replicate formula.vars.size defaultValue else given

/-- A run which fails after it has written something. -/
def failure (written : String) (context : String) (error : Error) : Report :=
  { exitCode := 1
    stdout := written
    stderr := "Error: " ++ context ++ "\n\nCaused by:\n    " ++ error.message ++ "\n" }

/-- A formula evaluated once, after what has been written before. -/
def evaluationReport (written : String) (settings : Settings) (formula : Formula)
    : Report :=
  let arguments := argumentsFor settings.arguments formula
  match formula.compile { arity := arguments.length, strict := settings.strict } with
  | .error error => failure written "Failed to compile formula" error
  | .ok evaluator =>
      match evaluator.call arguments.toArray with
      | .error error =>
          { exitCode := 1
            stdout := written
            stderr := "Error: " ++ error.message ++ "\n" }
      | .ok value =>
          { exitCode := 0
            stdout := written ++ resultBlock evaluator.name arguments value
            stderr := "" }

/-- A formula text read, shown and evaluated, after what has been written before. -/
def formulaReport (written : String) (settings : Settings) (text : String) : Report :=
  match Formula.parse text with
  | .error error => failure written ("Failed to parse '" ++ text ++ "'") error
  | .ok formula =>
      let block := treeBlock (settings.format.getD .text) formula.expr
      evaluationReport (written ++ block) settings formula

/-- The run with the settings. -/
def Settings.report (settings : Settings) : Report :=
  let text := settings.formula.getD defaultFormula
  if settings.tokens then
    match tokenize text with
    | .error error => failure "" ("Failed to tokenize '" ++ text ++ "'") error
    | .ok tokens => formulaReport (tokenBlock tokens) settings text
  else formulaReport "" settings text

/-- The run with the arguments, which some parser makes into settings. Those which it does not
accept it answers itself.
-/
def runWith (parse : List String → Except Report Settings) (arguments : List String) : Report :=
  match parse arguments with
  | .ok settings => settings.report
  | .error answer => answer

end Formulary.CommandLine
