/-! What can be set for a run of the command line. -/

namespace Formulary.CommandLine

/-- How the tree is shown. -/
inductive TreeFormat where
  | text
  | outline
  | json
deriving DecidableEq

/-- How much is told while the program runs. -/
inductive LogLevel where
  | error
  | warn
  | info
  | debug
  | trace
deriving DecidableEq

/-- What has been set. What has not takes its default. -/
structure Settings where
  formula : Option String := none
  /-- The values of the variables, in the order given. -/
  arguments : List Float := []
  strict : Bool := false
  tokens : Bool := false
  format : Option TreeFormat := none
  logLevel : Option LogLevel := none

end Formulary.CommandLine
