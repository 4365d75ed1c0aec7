/-
Module: FacetedSearch.Log.Journal
Purpose: The set-up of logging over time: who writes where, and from which level on.
Imports: FacetedSearch.Facet.Audit, FacetedSearch.Log.Record
Main exports: Log.Journal, Log.Journal.setup, Log.Journal.attach, Log.Journal.deliver,
  Log.Journal.perform, Log.Journal.performAll
-/
import FacetedSearch.Facet.Audit
import FacetedSearch.Log.Record

namespace FacetedSearch

namespace Log

/-!
### The journal

Every logger passes its records on to the root.  A set-up gives the root a level and a stream of
its own, in place of whatever handled its records before, and takes the handlers away from the two
loggers of the server that would write every line twice.  Streams are numbered as they are made.
-/

/-- The state of logging. -/
structure Journal where
  /-- Records below this level are not written. -/
  level : Level := Level.warning
  /-- The number of streams made so far. -/
  streams : Nat := 0
  /-- The stream of the latest set-up that succeeded. -/
  stream? : Option Nat := none
  /-- The handlers that write to none of these streams, each by its logger. -/
  handlers : List Text := []
deriving Repr, DecidableEq

namespace Journal

/-- The logger that all others pass their records on to. -/
def root : Text := "root".toList

/-- The loggers that a set-up takes the handlers away from. -/
def cleared : List Text := [root, "uvicorn.access".toList, "uvicorn.error".toList]

/-- A logger by its name; without a name it is the root. -/
def loggerNamed (name : Text) : Text := if name = [] then root else name

/-- The number of handlers of a logger. -/
def handlerCount (journal : Journal) (logger : Text) : Nat :=
  journal.handlers.count logger +
    if logger = root ∧ journal.stream?.isSome then 1 else 0

/-- A set-up at the level of a name. Without a name, or with an empty one, `fallback` is taken. A
name that no level has changes nothing, though a stream has been made for it. -/
def setup (journal : Journal) (fallback : Text) (requested : Option Text) :
    Journal × Except Level.UnknownName Unit :=
  let name := match requested with
    | none | some [] => fallback
    | some name => name
  match Level.ofName? name with
  | .error unknown => ({ journal with streams := journal.streams + 1 }, .error unknown)
  | .ok level =>
      ({ level := level
         streams := journal.streams + 1
         stream? := some journal.streams
         handlers := journal.handlers.filter fun logger => !cleared.contains logger }, .ok ())

/-- A logger with one handler more. -/
def attach (journal : Journal) (logger : Text) : Journal :=
  { journal with handlers := loggerNamed logger :: journal.handlers }

/-- A record as it comes to the root, under the name of its logger. -/
def received (record : Record) : Record := { record with logger := loggerNamed record.logger }

/-- The stream that a record goes to. Level 0 and below are never written. -/
def deliver (journal : Journal) (record : Record) : Option (Nat × Record) :=
  if Level.notset < record.level ∧ journal.level ≤ record.level then
    journal.stream?.map fun stream => (stream, received record)
  else none

/-!
### Histories
-/

/-- What happens to logging, or is logged. -/
inductive Action where
  | setup (fallback : Text) (requested : Option Text)
  | attach (logger : Text)
  | emit (record : Record)
  | search (text : Text) (created : Rat)

/-- Why an action failed. -/
inductive Error where
  | unknownLevel (error : Level.UnknownName)
  | tooLong (error : Duration.TooLong)
deriving Repr, DecidableEq

/-- What an action led to: the state after it, whether it failed, and the records that were
delivered, each with the stream that it went to. -/
structure Step where
  journal : Journal
  result : Except Error Unit := .ok ()
  delivered : List (Nat × Record) := []

/-- The line that a record leaves on the stream that it goes to. A record that cannot be written
leaves none, and the program goes on. -/
def lineOn? : Nat × Record → Option (Nat × Text)
  | (stream, record) => record.line?.toOption.map fun line => (stream, line)

/-- The lines that an action left on the streams. -/
def Step.lines (step : Step) : List (Nat × Text) := step.delivered.filterMap lineOn?

/-- One action. A search logs the tokens that it leaves out. -/
def perform (journal : Journal) : Action → Step
  | .setup fallback requested =>
      match journal.setup fallback requested with
      | (journal, .ok ()) => { journal }
      | (journal, .error unknown) => { journal, result := .error (.unknownLevel unknown) }
  | .attach logger => { journal := journal.attach logger }
  | .emit record => { journal, delivered := (journal.deliver record).toList }
  | .search text created =>
      let sorted := Facet.filter text none
      { journal
        result := match sorted.result with
          | .ok _ => .ok ()
          | .error tooLong => .error (.tooLong tooLong)
        delivered := sorted.events.filterMap fun event => journal.deliver (event.at created) }

/-- Actions one after the other. -/
def performAll (journal : Journal) : List Action → List Step
  | [] => []
  | action :: rest =>
      let step := journal.perform action
      step :: step.journal.performAll rest

end Journal

end Log

end FacetedSearch
