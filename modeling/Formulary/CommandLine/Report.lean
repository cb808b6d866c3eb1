import Formulary.CommandLine.Arguments
import Formulary.CommandLine.Output

/-! The report of the program on its arguments. -/

namespace Formulary.CommandLine

/-- The name and the number of the program. -/
def versionText : String :=
  "fcc 0.1.0\n"

/-- How the program is called. -/
def usageText : String :=
  "Usage: fcc [OPTIONS]\n"

/-- The text which explains the options. -/
def helpText : String :=
  "Compile a spreadsheet-style formula and evaluate it\n\n" ++ usageText
    ++ "\nOptions:\n"
    ++ "  -f, --formula <FORMULA>      The formula to be compiled [default: "
    ++ defaultFormula ++ "]\n"
    ++ "  -x <VALUES>                  Argument values, in ascending variable order "
    ++ "(repeat for X0, X1, ...). Defaults to 2 for every variable the formula uses\n"
    ++ "      --strict                 Require the formula to use exactly as many "
    ++ "variables as values given\n"
    ++ "      --tokens                 Print the token stream before the tree\n"
    ++ "      --format <FORMAT>        How to print the syntax tree [default: text] "
    ++ "[possible values: text, debug, json]\n"
    ++ "      --log-level <LOG_LEVEL>  Log verbosity level (trace, debug, info, warn, "
    ++ "error) [default: warn]\n"
    ++ "  -h, --help                   Print help\n"
    ++ "  -V, --version                Print version\n"

/-- The settings in the arguments, or what is answered instead of a run. -/
def parseArguments (arguments : List String) : Except Report Settings :=
  match request arguments with
  | .ok (.evaluate settings) => .ok settings
  | .ok .showHelp => .error { exitCode := 0, stdout := helpText, stderr := "" }
  | .ok .showVersion => .error { exitCode := 0, stdout := versionText, stderr := "" }
  | .error error =>
      .error {
        exitCode := 2
        stdout := ""
        stderr := "error: " ++ error.message ++ "\n\n" ++ usageText
      }

/-- The run with the arguments. -/
def run (arguments : List String) : Report :=
  runWith parseArguments arguments

end Formulary.CommandLine
