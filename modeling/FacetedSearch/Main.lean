/-
Module: FacetedSearch.Main
Purpose: The program on the command line.
Imports: FacetedSearch.CommandLine.Run, Std.Time.DateTime.Timestamp
Main exports: main
-/
import FacetedSearch.CommandLine.Run
import Std.Time.DateTime.Timestamp

namespace FacetedSearch

namespace Program

/-- The variables of the environment that the settings are read from. -/
def settingVariables : List String :=
  ["ANNOQUERY_LOG_LEVEL", "ANNOQUERY_HOST", "ANNOQUERY_PORT", "ANNOQUERY_MAX_QUERY_LENGTH"]

/-- The environment as far as the settings are concerned. -/
def environment : IO (List (Text × Text)) :=
  settingVariables.filterMapM fun name => do
    let value ← IO.getEnv name
    return value.map fun value => (name.toList, value.toList)

/-- Writes the records that the journal lets through to standard error. -/
def log (journal : Log.Journal) (events : List Log.Event) : IO Unit := do
  let now ← Std.Time.Timestamp.now
  let created : Rat := now.toSecondsSinceUnixEpoch.val
  for event in events do
    if let some (_, line) := (journal.deliver (event.at created)).bind Log.Journal.lineOn? then
      IO.eprintln (String.ofList line)

/-- Carries out what the program decided and gives its exit code. -/
def conclude (outcome : CommandLine.Outcome) : IO UInt32 := do
  IO.print (String.ofList outcome.output)
  IO.eprint (String.ofList outcome.report)
  return outcome.exitCode

end Program

end FacetedSearch

open FacetedSearch in
/-- Reads the settings, does what the arguments say, and logs what is left to log. -/
def main (arguments : List String) : IO UInt32 := do
  match Settings.ofEnvironment (← Program.environment) with
  | .error problems => do
      for problem in problems do
        IO.eprintln (String.ofList (problem.setting ++ ": ".toList ++ problem.given))
      return 1
  | .ok settings => do
      let (outcome, journal, events) :=
        CommandLine.interpret settings (arguments.map String.toList)
      Program.log journal events
      Program.conclude outcome
