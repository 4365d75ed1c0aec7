/-
Module: FacetedSearch.Calendar
Purpose: Seconds since 1970 as a date and time of the proleptic Gregorian calendar, and back.
Imports: FacetedSearch.Text.Numeral
Main exports: CivilTime, CivilTime.ofSeconds, CivilTime.toSeconds, CivilTime.toSeconds_ofSeconds,
  CivilTime.stamp, CivilTime.stamp?
-/
import FacetedSearch.Text.Numeral

namespace FacetedSearch

/-- A date and time without a zone. -/
structure CivilTime where
  year : Int
  month : Nat
  day : Nat
  hour : Nat
  minute : Nat
  second : Nat
deriving Repr, DecidableEq

namespace CivilTime

/-!
### Days

Years are counted here from 1 March, so that the leap day is the last day of a year.  Four hundred
years have 146097 days, whatever year they start with.  Inside them a century has 36524 days and
the last one a day more, four years have 1461, and a year has 365 and the fourth one a day more.
The months from March on start at day (153 m + 2) / 5 of such a year.
-/

/-- The days from 1 March of the year 0 to 1 January 1970. -/
def epochDay : Int := 719468

/-- The days before 1 March of a year, counted from the year 0. -/
def daysBefore (year : Int) : Int := 365 * year + year / 4 - year / 100 + year / 400

/-- The date of a day that is counted from 1 March of the year 0: the year that starts in March,
the month counted from March, and the day of the month counted from 0. -/
def ofDay (n : Int) : Int × Nat × Nat :=
  let era := n / 146097
  let inEra := (n % 146097).toNat
  let century := min (inEra / 36524) 3
  let inCentury := inEra - 36524 * century
  let four := inCentury / 1461
  let inFour := inCentury - 1461 * four
  let one := min (inFour / 365) 3
  let inYear := inFour - 365 * one
  let month := (5 * inYear + 2) / 153
  (400 * era + 100 * century + 4 * four + one, month, inYear - (153 * month + 2) / 5)

/-- The date and time of a number of seconds since the start of 1970. -/
def ofSeconds (seconds : Int) : CivilTime :=
  let (year, month, day) := ofDay (seconds / 86400 + epochDay)
  let inDay := (seconds % 86400).toNat
  { year := if month < 10 then year else year + 1
    month := if month < 10 then month + 3 else month - 9
    day := day + 1
    hour := inDay / 3600
    minute := inDay % 3600 / 60
    second := inDay % 60 }

/-- The number of seconds since the start of 1970. -/
def toSeconds (time : CivilTime) : Int :=
  let marchYear := if time.month < 3 then time.year - 1 else time.year
  let marchMonth := (time.month + 9) % 12
  let days := daysBefore marchYear + (153 * marchMonth + 2) / 5 + (time.day - 1) - epochDay
  86400 * days + 3600 * time.hour + 60 * time.minute + time.second

/-- The days before a year, part by part of its number. -/
theorem daysBefore_parts (era : Int) {century four one : Nat} (hc : century ≤ 3) (hf : four ≤ 24)
    (ho : one ≤ 3) :
    daysBefore (400 * era + 100 * century + 4 * four + one) =
      146097 * era + 36524 * century + 1461 * four + 365 * one := by
  have fours : (400 * era + 100 * century + 4 * four + one) / 4 =
      100 * era + 25 * century + four := by omega
  have hundreds : (400 * era + 100 * century + 4 * four + one) / 100 = 4 * era + century := by
    omega
  have eras : (400 * era + 100 * century + 4 * four + one) / 400 = era := by omega
  rw [daysBefore, fours, hundreds, eras]
  omega

/-- The date of a day counts that day. -/
theorem day_ofDay (n : Int) :
    daysBefore (ofDay n).1 + (153 * (ofDay n).2.1 + 2) / 5 + (ofDay n).2.2 = n := by
  simp only [ofDay]
  rw [daysBefore_parts _ (by omega) (by omega) (by omega)]
  omega

/-- The month of a date is one of twelve. -/
theorem month_ofDay_lt (n : Int) : (ofDay n).2.1 < 12 := by
  simp only [ofDay]
  omega

/-- The date and time of a number of seconds stands for exactly these seconds. -/
theorem toSeconds_ofSeconds (seconds : Int) : (ofSeconds seconds).toSeconds = seconds := by
  have days := day_ofDay (seconds / 86400 + epochDay)
  have months := month_ofDay_lt (seconds / 86400 + epochDay)
  rcases hd : ofDay (seconds / 86400 + epochDay) with ⟨year, month, day⟩
  simp only [hd] at days months
  simp only [ofSeconds, hd, toSeconds]
  by_cases h : month < 10
  · have m : (month + 3 + 9) % 12 = month := by omega
    simp only [h, if_true, show ¬ month + 3 < 3 by omega, if_false, m]
    omega
  · have m : (month - 9 + 9) % 12 = month := by omega
    simp only [h, if_false, show month - 9 < 3 by omega, if_true, m, Int.add_sub_cancel]
    omega

/-- A date and time as year, month and day, the letter T, hour, minute and second, and Z for the
zone of Greenwich. The year has as many digits as it needs, all else has two. -/
def stamp (time : CivilTime) : Text :=
  Numeral.ofInt time.year ++ '-' :: Numeral.padded 2 time.month ++ '-' ::
    Numeral.padded 2 time.day ++ 'T' :: Numeral.padded 2 time.hour ++ ':' ::
    Numeral.padded 2 time.minute ++ ':' :: Numeral.padded 2 time.second ++ ['Z']

/-!
### Times without a stamp

The seconds are kept in 64 bits.  The year is kept in 32 bits, counted from 1900 while the date is
found and from the year 0 while the stamp is written.
-/

/-- Why there is no stamp. -/
inductive Fault where
  | seconds
  | calendar
  | year
deriving Repr, DecidableEq

/-- A fault as it is reported. -/
def Fault.message : Fault → Text
  | .seconds => "timestamp out of range for platform time_t".toList
  | .calendar => "[Errno 75] Value too large for defined data type".toList
  | .year => "signed integer is greater than maximum".toList

/-- A word holds the numbers from `-half` up to `half`, which is the first that it does not hold. -/
def inWord (half n : Int) : Bool := decide (-half ≤ n ∧ n < half)

/-- The stamp of a number of seconds since the start of 1970, if it is not too far away. -/
def stamp? (seconds : Int) : Except Fault Text :=
  let time := ofSeconds seconds
  if !inWord 0x8000000000000000 seconds then .error .seconds
  else if !inWord 0x80000000 (time.year - 1900) then .error .calendar
  else if !inWord 0x80000000 time.year then .error .year
  else .ok time.stamp

end CivilTime

end FacetedSearch
