/-
Module: FacetedSearch.Log.Record
Purpose: Log records and the JSON line that each is written as.
Imports: FacetedSearch.Calendar, FacetedSearch.Duration, FacetedSearch.Json.Printer,
  FacetedSearch.Log.Level, FacetedSearch.Text.Template
Main exports: Log.Event, Log.Record, Log.Event.shown, Log.Record.text?, Log.Unwritable,
  Log.Record.line?
-/
import FacetedSearch.Calendar
import FacetedSearch.Duration
import FacetedSearch.Json.Printer
import FacetedSearch.Log.Level
import FacetedSearch.Text.Template

namespace FacetedSearch

namespace Log

/-- Something to be logged: who logs it, how severe it is, a message and attributes.  Attributes
are set in order, so that the last of a name counts. -/
structure Event where
  logger : Text
  level : Level
  message : Text
  attributes : List (Text × Json) := []
deriving Repr

/-- An error that is logged with a record. -/
structure Failure where
  kind : Text
  message : Option Text
deriving Repr, DecidableEq

/-- An event with the time at which it was logged, in seconds since the start of 1970, with
arguments for the places in its message, and with the error that it reports if there is one. -/
structure Record extends Event where
  created : Rat
  arguments : List Text := []
  failure : Option Failure := none

/-- The record of an event at a time. -/
def Event.at (event : Event) (created : Rat) : Record := { event with created := created }

/-!
### The message

When there are arguments, the message is a template that they are put into.  A message without
arguments is taken as it is.
-/

/-- The message as it is shown, if its arguments fit into it. -/
def Record.text? (record : Record) : Except Template.Fault Text :=
  if record.arguments = [] then .ok record.message
  else Template.fill record.message record.arguments

/-!
### The line

A record is one JSON object on one line.  After the time, the level, the logger and the message
come those attributes that requests and searches set, in a fixed order, and the error at the end.
-/

/-- The attributes that are written, in their order. -/
def attributeNames : List Text :=
  ["request_id".toList, "path".toList, "method".toList, "status_code".toList,
    "latency_ms".toList, "term".toList, "field".toList, "token_count".toList]

/-- The value that was set last for a name. -/
def Event.attribute? (event : Event) (name : Text) : Option Json :=
  (event.attributes.reverse.find? (·.1 == name)).map (·.2)

/-- The attributes of an event that are written. -/
def Event.shown (event : Event) : List (Text × Json) :=
  attributeNames.filterMap fun name => (event.attribute? name).map fun value => (name, value)

/-- An error by its kind, and by its message when it has one. -/
def Failure.text (failure : Failure) : Text :=
  match failure.message with
  | none | some [] => failure.kind
  | some message => failure.kind ++ ": ".toList ++ message

/-- The time of a record, to the second, if it can be written. -/
def Record.stamp? (record : Record) : Except CivilTime.Fault Text :=
  CivilTime.stamp? record.created.floor

/-- The object that a record is written as, under a time stamp and with its message as shown. -/
def Record.object (record : Record) (stamp text : Text) : Json :=
  .obj ([Json.member "ts" (.str stamp), Json.member "level" (.str record.level.name),
      Json.member "logger" (.str record.logger), Json.member "msg" (.str text)] ++
    record.shown ++
    (record.failure.map fun failure => Json.member "exc_info" (.str failure.text)).toList)

/-!
### What cannot be written

There is no line when the time is too far away, none when the arguments do not fit into the
message, and none when a number in it has more digits than are written.  Texts can always be
written.
-/

/-- Why there is no line for a record. -/
inductive Unwritable where
  | time (fault : CivilTime.Fault)
  | template (fault : Template.Fault)
  | tooLong
deriving Repr, DecidableEq

/-- How it is reported that there is no line. -/
def Unwritable.message : Unwritable → Text
  | .time fault => fault.message
  | .template fault => fault.message
  | .tooLong => Duration.unwrittenMessage

/-- The line that a record is written as, under a time stamp if there is one. -/
def Record.stamped? (record : Record) (stamp? : Except CivilTime.Fault Text) :
    Except Unwritable Text :=
  if Duration.isTooLong record.level then .error .tooLong
  else
    match stamp?, record.text? with
    | .error fault, _ => .error (.time fault)
    | .ok _, .error fault => .error (.template fault)
    | .ok stamp, .ok text =>
        if record.shown.any fun (_, value) => value.ints.any Duration.isTooLong then .error .tooLong
        else .ok (record.object stamp text).spaced

/-- The line that a record is written as. -/
def Record.line? (record : Record) : Except Unwritable Text := record.stamped? record.stamp?

end Log

end FacetedSearch
