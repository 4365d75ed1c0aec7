/-
Module: FacetedSearch.Duration
Purpose: Relative durations such as 3days, in seconds.
Imports: FacetedSearch.Text.LowerCase, FacetedSearch.Text.Numeral
Main exports: Duration, Duration.Unit, Duration.ofText?, Duration.seconds, Duration.seconds?,
  Duration.digitLimit, Duration.isTooLong
-/
import FacetedSearch.Text.LowerCase
import FacetedSearch.Text.Numeral

namespace FacetedSearch

/-!
### Units
-/

/-- The units of time that a duration can be given in. -/
inductive Duration.Unit where
  | second
  | minute
  | hour
  | day
  | week
  | month
  | year
deriving Repr, DecidableEq

namespace Duration

/-- Every unit once. -/
def Unit.all : List Unit := [.second, .minute, .hour, .day, .week, .month, .year]

/-- How a unit is written in the singular. -/
def Unit.name : Unit → Text
  | .second => "sec".toList
  | .minute => "min".toList
  | .hour => "hour".toList
  | .day => "day".toList
  | .week => "week".toList
  | .month => "month".toList
  | .year => "year".toList

/-- The length of a unit; a month has thirty days and a year 365. -/
def Unit.seconds : Unit → Nat
  | .second => 1
  | .minute => 60
  | .hour => 60 * 60
  | .day => 24 * 60 * 60
  | .week => 7 * (24 * 60 * 60)
  | .month => 30 * (24 * 60 * 60)
  | .year => 365 * (24 * 60 * 60)

end Duration

/-!
### Durations

A duration is digits, then perhaps a unit, then perhaps the letter s of the plural.  The letters
may be in either case.  Digits without a unit count seconds.
-/

/-- A duration as it is written: its digits, its unit if it has one, and whether the unit is in
the plural. -/
structure Duration where
  digits : Text
  unit : Option Duration.Unit
  plural : Bool
deriving Repr, DecidableEq

namespace Duration

/-- What may follow the digits: nothing, or a unit in the singular or plural. -/
def suffix? (text : Text) : Option (Option Unit × Bool) :=
  if text = [] then some (none, false)
  else
    match Unit.all.find? (·.name == text) with
    | some unit => some (some unit, false)
    | none =>
        match Unit.all.find? (fun unit => unit.name ++ ['s'] == text) with
        | some unit => some (some unit, true)
        | none => none

/-- The duration that a text spells in lower case. -/
def ofLower? (text : Text) : Option Duration :=
  let digits := text.takeWhile Char.isDigit
  if digits = [] then none
  else
    (suffix? (text.dropWhile Char.isDigit)).map fun (unit, plural) => ⟨digits, unit, plural⟩

/-- The duration that a text spells, with letters in either case. -/
def ofText? (text : Text) : Option Duration := ofLower? text.lower

/-- How a duration is spelled in lower case. -/
def toText (duration : Duration) : Text :=
  duration.digits ++ match duration.unit with
    | none => []
    | some unit => if duration.plural then unit.name ++ ['s'] else unit.name

/-- The number of seconds. -/
def seconds (duration : Duration) : Nat :=
  Numeral.value duration.digits * (duration.unit.getD .second).seconds

/-!
### The digit limit

Durations are read into numbers of any size, but a number is only read up to a fixed count of
digits, leading zeros included.  Nor is a number with more digits ever written.
-/

/-- The longest number that is read or written. -/
def digitLimit : Nat := 4300

/-- A number with more digits than are written. -/
def isTooLong (number : Int) : Bool :=
  decide (digitLimit < (Numeral.ofNat number.natAbs).length)

/-- A duration whose number has more digits than are read. -/
structure TooLong where
  digits : Nat
deriving Repr, DecidableEq

/-- The seconds of a text that spells a duration, none for any other text. -/
def seconds? (text : Text) : Except TooLong (Option Nat) :=
  match ofText? text with
  | none => .ok none
  | some duration =>
      if digitLimit < duration.digits.length then .error ⟨duration.digits.length⟩
      else .ok (some duration.seconds)

/-- The limit as it is reported. -/
def limitMessage : Text :=
  "Exceeds the limit (".toList ++ Numeral.ofNat digitLimit ++
    " digits) for integer string conversion".toList

/-- What can be done about the limit, as it is reported. -/
def limitAdvice : Text := "; use sys.set_int_max_str_digits() to increase the limit".toList

/-- The report of a number that is too long to be written. -/
def unwrittenMessage : Text := limitMessage ++ limitAdvice

/-- The report of a number that is too long to be read. -/
def TooLong.message (error : TooLong) : Text :=
  limitMessage ++ ": value has ".toList ++ Numeral.ofNat error.digits ++ " digits".toList ++
    limitAdvice

end Duration

end FacetedSearch
