/-
Module: FacetedSearch.CommandLine.Run
Purpose: What the program prints for its arguments, and how it exits.
Imports: FacetedSearch.CommandLine.Arguments, FacetedSearch.Log.Journal, FacetedSearch.Web.Service
Main exports: CommandLine.Launch, CommandLine.Failure, CommandLine.Outcome,
  CommandLine.Outcome.exitCode, CommandLine.Outcome.output, CommandLine.run, CommandLine.interpret
-/
import FacetedSearch.CommandLine.Arguments
import FacetedSearch.Log.Journal
import FacetedSearch.Web.Service

namespace FacetedSearch

namespace CommandLine

/-- A service that is to be started. -/
structure Launch where
  title : Text
  version : Text
  host : Text
  port : Int
  logLevel : Text
deriving Repr, DecidableEq

/-- Why a command fails. -/
inductive Failure where
  | unknownLevel (error : Log.Level.UnknownName)
  | tooLong (error : Duration.TooLong)
  | unprintable
deriving Repr, DecidableEq

/-- How a failure is reported. -/
def Failure.message : Failure → Text
  | .unknownLevel error => error.message
  | .tooLong error => error.message
  | .unprintable => Duration.unwrittenMessage

/-- What the program does. -/
inductive Outcome where
  | misused
  | helped
  | printed (text : Text)
  | launched (launch : Launch)
  | failed (failure : Failure)
deriving Repr, DecidableEq

/-!
### What is seen of it

Results go to the standard output, so that nothing else stands between them; all that is told beside
them goes to the standard error.
-/

/-- How the program is used. -/
def usage : Text :=
  ("Usage: tokens QUERY | flat QUERY | facets [--user USER] QUERY |\n" ++
    "       serve [--host HOST] [--port PORT] [--log-level LEVEL]\n").toList

/-- The code that the program exits with: 0 unless it is misused or fails. -/
def Outcome.exitCode : Outcome → UInt32
  | .helped | .printed _ | .launched _ => 0
  | .failed _ => 1
  | .misused => 2

/-- What the program writes to the standard output. -/
def Outcome.output : Outcome → Text
  | .printed text => text
  | .helped => usage
  | .misused | .launched _ | .failed _ => []

/-- What the program writes to the standard error. -/
def Outcome.report : Outcome → Text
  | .misused => usage
  | .launched launch =>
      launch.title ++ ' ' :: launch.version ++ " on ".toList ++ launch.host ++
        ':' :: Numeral.ofInt launch.port ++ ['\n']
  | .failed failure => failure.message ++ ['\n']
  | .helped | .printed _ => []

/-!
### Printing

A result is printed with one item a line.  A number with more digits than are read is not printed
either, and then nothing is.
-/

/-- A result as it is printed. -/
def printed (result : Json) : Outcome := .printed (result.indented ++ ['\n'])

/-- A number with more digits than are written. -/
def isUnprintable : Value → Bool
  | .text _ => false
  | .number number => Duration.isTooLong number

/-- The facets as they are printed, if all their numbers can be. -/
def printedFacets (facets : Facets) : Outcome :=
  if facets.toList.any fun (_, facet) => facet.terms.any isUnprintable then .failed .unprintable
  else printed (Answer.facets facets)

/-- A command, with the events that it logs. -/
def run : Command → Outcome × List Log.Event
  | .tokens query => (printed (Answer.tokens (Query.tokens query)), [])
  | .flat query => (printed (Answer.parameters (Backend.parameters query)), [])
  | .facets query user =>
      let sorted := Facet.filter query (some (.filter user))
      match sorted.result with
      | .error tooLong => (.failed (.tooLong tooLong), sorted.events)
      | .ok facets => (printedFacets facets, sorted.events)
  | .serve host port logLevel =>
      (.launched ⟨Web.title, Web.version, host, port, logLevel⟩, [])

/-- What the program does for its arguments, and the log that it keeps. Every command first sets
up logging at the level of the settings. -/
def interpret (settings : Settings) (arguments : List Text) :
    Outcome × Log.Journal × List Log.Event :=
  match read? settings arguments with
  | none => (.misused, {}, [])
  | some .help => (.helped, {}, [])
  | some (.run command) =>
      match Log.Journal.setup {} settings.logLevel none with
      | (journal, .error unknown) => (.failed (.unknownLevel unknown), journal, [])
      | (journal, .ok ()) =>
          let (outcome, events) := run command
          (outcome, journal, events)

end CommandLine

end FacetedSearch
