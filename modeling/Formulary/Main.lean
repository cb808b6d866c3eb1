import Formulary.CommandLine.Report

/-! The command line program, which writes the report of a run. -/

/-- Runs the program with the arguments of the command line. -/
def main (args : List String) : IO UInt32 := do
  let report := Formulary.CommandLine.run args
  IO.print report.stdout
  IO.eprint report.stderr
  return UInt32.ofNat report.exitCode
