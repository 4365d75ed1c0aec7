/-
Module: FacetedSearch.Proofs.Gregorian
Purpose: The calendar by its rules: which years have a leap day and how long the months are. A date of
  the year 1 or later counts the days of the years and of the months before it; the date and time of
  a number of seconds is the one date that counts them, and later seconds have later dates.
Imports: FacetedSearch.Proofs.Calendar
Main exports: CivilTime.IsLeap, CivilTime.IsDate, CivilTime.elapsed, CivilTime.yearStart,
  CivilTime.isDate_ofSeconds, CivilTime.elapsed_ofSeconds, CivilTime.IsDate.elapsed_lt_iff
-/
import FacetedSearch.Proofs.Calendar

namespace FacetedSearch

namespace CivilTime

/-!
### The rules
-/

/-- Every fourth year has a leap day, but of the years that end a century only every fourth. -/
def IsLeap (year : Nat) : Prop := 4 ∣ year ∧ (100 ∣ year → 400 ∣ year)

instance (year : Nat) : Decidable (IsLeap year) := inferInstanceAs (Decidable (_ ∧ _))

/-- The days of a year. -/
def yearLength (year : Nat) : Nat := if IsLeap year then 366 else 365

/-- The days of a month of a year; January is the month 1. -/
def monthLength (year : Nat) : Nat → Nat
  | 2 => if IsLeap year then 29 else 28
  | 4 | 6 | 9 | 11 => 30
  | _ => 31

/-- The days of the years from 1 up to a year. -/
def daysOfYears : Nat → Nat
  | 0 => 0
  | year + 1 => daysOfYears year + yearLength (year + 1)

/-- The days of the months from January up to a month. -/
def daysOfMonths (year : Nat) : Nat → Nat
  | 0 => 0
  | month + 1 => daysOfMonths year month + monthLength year (month + 1)

/-- A day of the calendar, from the year 1 on, and a time of that day. -/
structure IsDate (time : CivilTime) : Prop where
  year : 1 ≤ time.year
  month : 1 ≤ time.month ∧ time.month ≤ 12
  day : 1 ≤ time.day ∧ time.day ≤ monthLength time.year.toNat time.month
  hour : time.hour < 24
  minute : time.minute < 60
  second : time.second < 60

/-- The days from the first day of the year 1 to a date. -/
def ordinal (time : CivilTime) : Nat :=
  daysOfYears (time.year.toNat - 1) + daysOfMonths time.year.toNat (time.month - 1) +
    (time.day - 1)

/-- The seconds from the start of 1970 to a date and time. -/
def elapsed (time : CivilTime) : Int :=
  86400 * ((time.ordinal : Int) - daysOfYears 1969) + 3600 * time.hour + 60 * time.minute +
    time.second

/-- The start of a year. -/
def yearStart (year : Nat) : CivilTime := ⟨year, 1, 1, 0, 0, 0⟩

/-!
### Years that start in January and in March

The leap day of a year is the last day of the year that started in the March before.  Counted from
March the months before a month have the same days in every year.
-/

theorem daysBefore_succ (year : Nat) :
    daysBefore (year + 1) = daysBefore year + yearLength (year + 1) := by
  by_cases leap : IsLeap (year + 1)
  · rw [yearLength, if_pos leap]
    unfold daysBefore
    unfold IsLeap at leap
    omega
  · rw [yearLength, if_neg leap]
    unfold daysBefore
    unfold IsLeap at leap
    omega

theorem daysOfYears_eq (year : Nat) : (daysOfYears year : Int) = daysBefore year := by
  induction year with
  | zero => rfl
  | succ year ih =>
      have next := daysBefore_succ year
      push_cast [daysOfYears]
      omega

theorem daysOfYears_epoch : daysOfYears 1969 = 719162 := by
  have closed : daysBefore (1969 : Nat) = 719162 := by decide
  exact Int.ofNat_inj.1 ((daysOfYears_eq 1969).trans closed)

theorem daysOfMonths_to_march (year : Nat) {month : Nat} (first : 1 ≤ month) (last : month < 3) :
    306 + daysOfMonths year (month - 1) = (153 * (month + 9) + 2) / 5 := by
  interval_cases month <;> simp [daysOfMonths, monthLength]

theorem daysOfMonths_from_march (year : Nat) {month : Nat} (first : 3 ≤ month) (last : month ≤ 12) :
    306 + daysOfMonths year (month - 1) = yearLength year + (153 * (month - 3) + 2) / 5 := by
  by_cases leap : IsLeap year <;> interval_cases month <;>
    simp [daysOfMonths, monthLength, yearLength, leap]

theorem elapsed_eq_toSeconds {time : CivilTime} (year : 1 ≤ time.year)
    (month : 1 ≤ time.month ∧ time.month ≤ 12) (day : 1 ≤ time.day) :
    time.elapsed = time.toSeconds := by
  obtain ⟨before, same⟩ : ∃ before : Nat, time.year = before + 1 :=
    ⟨(time.year - 1).toNat, by omega⟩
  have days_before := daysOfYears_eq before
  have next := daysBefore_succ before
  have whole : (before + 1 : Int).toNat = before + 1 := by omega
  simp only [elapsed, ordinal, toSeconds, daysOfYears_epoch, epochDay, same, whole,
    Nat.add_sub_cancel]
  by_cases early : time.month < 3
  · have months : (time.month + 9) % 12 = time.month + 9 := by omega
    have march := daysOfMonths_to_march (before + 1) month.1 early
    rw [if_pos early, months, Int.add_sub_cancel]
    omega
  · have months : (time.month + 9) % 12 = time.month - 3 := by omega
    have march := daysOfMonths_from_march (before + 1) (Nat.le_of_not_lt early) month.2
    rw [if_neg early, months]
    omega

theorem elapsed_yearStart {year : Nat} (first : 1 ≤ year) :
    (yearStart year).elapsed = newYear year := by
  obtain ⟨before, rfl⟩ := Nat.exists_eq_add_of_le' first
  have days_before := daysOfYears_eq before
  have whole : ((before + 1 : Nat) : Int) - 1 = before := by omega
  simp only [elapsed, ordinal, yearStart, newYear, daysOfYears_epoch, epochDay, Int.toNat_natCast,
    Nat.add_sub_cancel, Nat.sub_self, daysOfMonths, whole]
  omega

/-!
### The date of a number of seconds
-/

theorem daysBefore_of_parts {year : Int} (era : Int) (century four one : Nat)
    (same : year = 400 * era + 100 * century + 4 * four + one) (hc : century ≤ 3) (hf : four ≤ 24)
    (ho : one ≤ 3) :
    daysBefore year = 146097 * era + 36524 * century + 1461 * four + 365 * one := by
  rw [same]
  exact daysBefore_parts era hc hf ho

/-- A day lies before the end of the year, counted from March, that its date has. The cases are what
ends with that year: nothing more, four years, a century or an era. -/
theorem lt_daysBefore_ofDay (n : Int) : n < daysBefore ((ofDay n).1 + 1) := by
  simp only [ofDay]
  generalize eras : n / 146097 = era
  generalize rest : (n % 146097).toNat = inEra
  generalize centuries : min (inEra / 36524) 3 = century
  generalize fours : (inEra - 36524 * century) / 1461 = four
  generalize ones : min ((inEra - 36524 * century - 1461 * four) / 365) 3 = one
  by_cases year : one < 3
  · rw [daysBefore_of_parts era century four (one + 1) (by omega) (by omega) (by omega) (by omega)]
    omega
  · by_cases four_years : four < 24
    · rw [daysBefore_of_parts era century (four + 1) 0 (by omega) (by omega) (by omega) (by omega)]
      omega
    · by_cases hundred_years : century < 3
      · rw [daysBefore_of_parts era (century + 1) 0 0 (by omega) (by omega) (by omega) (by omega)]
        omega
      · rw [daysBefore_of_parts (era + 1) 0 0 0 (by omega) (by omega) (by omega) (by omega)]
        omega

/-- Counted from March on, a day falls inside its month. February has what is left of the year. -/
theorem day_le_monthLength {marchYear inYear month : Nat}
    (inside : inYear < yearLength (marchYear + 1)) (same : month = (5 * inYear + 2) / 153) :
    inYear - (153 * month + 2) / 5 + 1 ≤
      if month < 10 then monthLength marchYear (month + 3)
      else monthLength (marchYear + 1) (month - 9) := by
  by_cases leap : IsLeap (marchYear + 1)
  · rw [yearLength, if_pos leap] at inside
    have few : month ≤ 11 := by omega
    interval_cases month <;> simp [monthLength, leap] <;> omega
  · rw [yearLength, if_neg leap] at inside
    have few : month ≤ 11 := by omega
    interval_cases month <;> simp [monthLength, leap] <;> omega

/-- A day from the year 1 on is a day of a year that starts in the March of a year from 0 on. -/
theorem exists_marchDay {n : Int} (positive : 0 ≤ n) :
    ∃ marchYear month inYear : Nat,
      ofDay n = ((marchYear : Int), month, inYear - (153 * month + 2) / 5) ∧
        month = (5 * inYear + 2) / 153 ∧ inYear < yearLength (marchYear + 1) := by
  have days := day_ofDay n
  have year_end := lt_daysBefore_ofDay n
  obtain ⟨inYear, _, months, days_in⟩ := exists_inYear n
  rcases parts : ofDay n with ⟨year, month, day⟩
  simp only [parts] at days year_end months days_in
  obtain ⟨marchYear, rfl⟩ : ∃ marchYear : Nat, year = marchYear := by
    refine ⟨year.toNat, ?_⟩
    unfold daysBefore at year_end
    omega
  have next := daysBefore_succ marchYear
  refine ⟨marchYear, month, inYear, ?_, months, by omega⟩
  rw [show day = inYear - (153 * month + 2) / 5 by omega]

theorem isDate_ofSeconds {seconds : Int} (modern : newYear 1 ≤ seconds) :
    (ofSeconds seconds).IsDate := by
  have year : 1 ≤ (ofSeconds seconds).year := by
    have not_before := (year_lt_iff seconds 1).not.2 (Int.not_lt.2 modern)
    omega
  have positive : 0 ≤ seconds / 86400 + epochDay := by
    unfold newYear daysBefore epochDay at modern
    unfold epochDay
    omega
  obtain ⟨marchYear, month, inYear, parts, months, inside⟩ := exists_marchDay positive
  have in_month := day_le_monthLength inside months
  have twelve := month_ofDay_lt (seconds / 86400 + epochDay)
  simp only [ofSeconds, parts] at year twelve ⊢
  -- January and February belong to the next civil year.
  by_cases spring : month < 10
  · simp only [spring, if_true] at year in_month ⊢
    refine ⟨year, ?_, ⟨Nat.le_add_left 1 _, in_month⟩, ?_, ?_, ?_⟩ <;> dsimp only <;> omega
  · simp only [spring, if_false] at year in_month ⊢
    refine ⟨year, ?_, ⟨Nat.le_add_left 1 _, in_month⟩, ?_, ?_, ?_⟩ <;> dsimp only <;> omega

/-- The date and time of a number of seconds counts these seconds. -/
theorem elapsed_ofSeconds {seconds : Int} (modern : newYear 1 ≤ seconds) :
    (ofSeconds seconds).elapsed = seconds := by
  have date := isDate_ofSeconds modern
  rw [elapsed_eq_toSeconds date.year date.month date.day.1, toSeconds_ofSeconds]

/-!
### The order of dates
-/

/-- The fields from the widest to the narrowest. -/
def fields (time : CivilTime) : List Int :=
  [time.year, time.month, time.day, time.hour, time.minute, time.second]

theorem eq_of_fields_eq {first second : CivilTime} (same : first.fields = second.fields) :
    first = second := by
  cases first
  cases second
  simpa [fields] using same

theorem daysOfYears_mono : Monotone daysOfYears :=
  monotone_nat_of_le_succ fun year => Nat.le_add_right (daysOfYears year) _

theorem daysOfMonths_mono (year : Nat) : Monotone (daysOfMonths year) :=
  monotone_nat_of_le_succ fun month => Nat.le_add_right (daysOfMonths year month) _

theorem daysOfMonths_twelve (year : Nat) : daysOfMonths year 12 = yearLength year := by
  by_cases leap : IsLeap year <;> simp [daysOfMonths, monthLength, yearLength, leap]

section Order

variable {first second : CivilTime}

/-- A day is counted before the first day of the next month. -/
theorem IsDate.day_lt (date : first.IsDate) :
    daysOfMonths first.year.toNat (first.month - 1) + (first.day - 1) <
      daysOfMonths first.year.toNat first.month := by
  obtain ⟨month, same⟩ := Nat.exists_eq_add_of_le' date.month.1
  have day := date.day
  rw [same] at day ⊢
  rw [Nat.add_sub_cancel, daysOfMonths]
  omega

/-- A day is counted before the first day of the next year. -/
theorem IsDate.ordinal_lt (date : first.IsDate) : first.ordinal < daysOfYears first.year.toNat := by
  have positive : 1 ≤ first.year.toNat := by
    have year := date.year
    omega
  obtain ⟨year, same⟩ := Nat.exists_eq_add_of_le' positive
  have in_year : daysOfMonths first.year.toNat first.month ≤ yearLength first.year.toNat := by
    rw [← daysOfMonths_twelve]
    exact daysOfMonths_mono _ date.month.2
  have in_month := date.day_lt
  unfold ordinal
  rw [same] at in_year in_month ⊢
  rw [Nat.add_sub_cancel, daysOfYears]
  omega

theorem IsDate.ordinal_lt_of_year (date : first.IsDate) (earlier : first.year < second.year) :
    first.ordinal < second.ordinal := by
  calc first.ordinal
      < daysOfYears first.year.toNat := date.ordinal_lt
    _ ≤ daysOfYears (second.year.toNat - 1) := daysOfYears_mono (by omega)
    _ ≤ second.ordinal := by
      unfold ordinal
      omega

theorem IsDate.ordinal_lt_of_month (date : first.IsDate) (same_year : first.year = second.year)
    (earlier : first.month < second.month) : first.ordinal < second.ordinal := by
  have in_month := date.day_lt
  have later : daysOfMonths first.year.toNat first.month ≤
      daysOfMonths first.year.toNat (second.month - 1) := daysOfMonths_mono _ (by omega)
  unfold ordinal
  rw [← same_year]
  omega

theorem IsDate.ordinal_lt_of_day (date : first.IsDate) (same_year : first.year = second.year)
    (same_month : first.month = second.month) (earlier : first.day < second.day) :
    first.ordinal < second.ordinal := by
  have positive := date.day.1
  unfold ordinal
  rw [← same_year, ← same_month]
  omega

theorem IsDate.elapsed_lt_of_ordinal (date : first.IsDate) (earlier : first.ordinal < second.ordinal) :
    first.elapsed < second.elapsed := by
  have hour := date.hour
  have minute := date.minute
  have second := date.second
  unfold elapsed
  omega

/-- The first field in which two dates differ decides which of them comes first. -/
theorem IsDate.elapsed_lt_of_fields (date : first.IsDate) (date' : second.IsDate)
    (earlier : first.fields < second.fields) : first.elapsed < second.elapsed := by
  simp only [fields, List.cons_lt_cons_iff, List.not_lt_nil, and_false, or_false, Nat.cast_lt,
    Nat.cast_inj] at earlier
  rcases earlier with year | ⟨same_year, month | ⟨same_month, day | ⟨same_day, in_day⟩⟩⟩
  · exact date.elapsed_lt_of_ordinal (date.ordinal_lt_of_year year)
  · exact date.elapsed_lt_of_ordinal (date.ordinal_lt_of_month same_year month)
  · exact date.elapsed_lt_of_ordinal (date.ordinal_lt_of_day same_year same_month day)
  · have same_ordinal : first.ordinal = second.ordinal := by
      unfold ordinal
      rw [same_year, same_month, same_day]
    have minute := date.minute
    have minute' := date'.minute
    have second := date.second
    have second' := date'.second
    unfold elapsed
    rw [same_ordinal]
    omega

theorem IsDate.elapsed_lt_iff (date : first.IsDate) (date' : second.IsDate) :
    first.elapsed < second.elapsed ↔ first.fields < second.fields := by
  constructor
  · intro earlier
    rcases lt_trichotomy first.fields second.fields with before | same | behind
    · exact before
    · rw [eq_of_fields_eq same] at earlier
      exact absurd earlier (lt_irrefl _)
    · exact absurd earlier (lt_asymm (date'.elapsed_lt_of_fields date behind))
  · intro before
    exact date.elapsed_lt_of_fields date' before

/-- No two dates count the same seconds. -/
theorem IsDate.eq_of_elapsed_eq (date : first.IsDate) (date' : second.IsDate)
    (same : first.elapsed = second.elapsed) : first = second := by
  rcases lt_trichotomy first.fields second.fields with before | equal | behind
  · exact absurd same (date.elapsed_lt_of_fields date' before).ne
  · exact eq_of_fields_eq equal
  · exact absurd same (date'.elapsed_lt_of_fields date behind).ne'

end Order

end CivilTime

end FacetedSearch
