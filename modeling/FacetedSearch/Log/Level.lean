/-
Module: FacetedSearch.Log.Level
Purpose: The severity of log records: numbers with names.
Imports: FacetedSearch.Text.Numeral, FacetedSearch.Text.Quoted, FacetedSearch.Text.UpperCase
Main exports: Log.Level, Log.Level.name, Log.Level.ofName?, Log.Level.UnknownName
-/
import FacetedSearch.Text.Numeral
import FacetedSearch.Text.Quoted
import FacetedSearch.Text.UpperCase

namespace FacetedSearch

namespace Log

/-- The severity of a record; a higher number is more severe. -/
abbrev Level := Int

namespace Level

def notset : Level := 0
def debug : Level := 10
def info : Level := 20
def warning : Level := 30
def error : Level := 40
def critical : Level := 50

/-- The name of a level as records show it; a level between the named ones shows its number. -/
def name (level : Level) : Text :=
  if level = notset then "NOTSET".toList
  else if level = debug then "DEBUG".toList
  else if level = info then "INFO".toList
  else if level = warning then "WARNING".toList
  else if level = error then "ERROR".toList
  else if level = critical then "CRITICAL".toList
  else "Level ".toList ++ Numeral.ofInt level

/-- The names that a level can be asked for by; two levels have a second name. -/
def names : List (Text × Level) :=
  [("CRITICAL".toList, critical), ("FATAL".toList, critical), ("ERROR".toList, error),
    ("WARNING".toList, warning), ("WARN".toList, warning), ("INFO".toList, info),
    ("DEBUG".toList, debug), ("NOTSET".toList, notset)]

/-- A name, in upper case, that no level has. -/
structure UnknownName where
  name : Text
deriving Repr, DecidableEq

/-- How an unknown name is reported. -/
def UnknownName.message (error : UnknownName) : Text :=
  "Unknown level: ".toList ++ Text.quotedName error.name

/-- The level of a name in any case. -/
def ofName? (name : Text) : Except UnknownName Level :=
  match names.lookup (Text.upper name) with
  | some level => .ok level
  | none => .error ⟨Text.upper name⟩

end Level

end Log

end FacetedSearch
