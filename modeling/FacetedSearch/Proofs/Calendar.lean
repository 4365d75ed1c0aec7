/-
Module: FacetedSearch.Proofs.Calendar
Purpose: Which times have a stamp. The year of a time grows with its seconds, so the times whose year
  can be written are those between two seconds.
Imports: FacetedSearch.Calendar
Main exports: CivilTime.newYear, CivilTime.year_lt_iff, CivilTime.HasStamp,
  CivilTime.stamp?_eq_ok_iff
-/
import Mathlib
import FacetedSearch.Calendar

namespace FacetedSearch

namespace CivilTime

/-!
### Years

January and February belong to the year that started in the March before them. They are its days from
306 on.
-/

/-- The day that a date counts is a day of its year, and it gives the month. -/
theorem exists_inYear (n : Int) :
    ∃ inYear : Nat, inYear ≤ 365 ∧ (ofDay n).2.1 = (5 * inYear + 2) / 153 ∧
      daysBefore (ofDay n).1 + inYear = n := by
  have days := day_ofDay n
  refine ⟨(153 * (ofDay n).2.1 + 2) / 5 + (ofDay n).2.2, ?_, ?_, ?_⟩
  · simp only [ofDay]
    omega
  · simp only [ofDay]
    omega
  · omega

theorem exists_year_eq (seconds : Int) :
    ∃ (marchYear : Int) (inYear : Nat), inYear ≤ 365 ∧
      daysBefore marchYear + inYear = seconds / 86400 + epochDay ∧
      (ofSeconds seconds).year = if inYear < 306 then marchYear else marchYear + 1 := by
  obtain ⟨inYear, short, month, days⟩ := exists_inYear (seconds / 86400 + epochDay)
  refine ⟨_, inYear, short, days, ?_⟩
  have before_january : (5 * inYear + 2) / 153 < 10 ↔ inYear < 306 := by omega
  simp only [ofSeconds, month, before_january]

/-- The second at which a year starts. -/
def newYear (year : Int) : Int := 86400 * (daysBefore (year - 1) + 306 - epochDay)

/-- A time lies before a year exactly when its seconds lie before the year's first. -/
theorem year_lt_iff (seconds year : Int) :
    (ofSeconds seconds).year < year ↔ seconds < newYear year := by
  obtain ⟨marchYear, inYear, short, days, same⟩ := exists_year_eq seconds
  rw [same, newYear]
  -- All years are long enough that a later year starts on a later day, leap days or not.
  unfold daysBefore at days ⊢
  split <;> omega

/-!
### Stamps
-/

/-- The seconds from the start of the year -2147481748 to the end of the year 2147483647. -/
def HasStamp (seconds : Int) : Prop :=
  -67768040609740800 ≤ seconds ∧ seconds < 67767976233532800

instance (seconds : Int) : Decidable (HasStamp seconds) := inferInstanceAs (Decidable (_ ∧ _))

theorem inWord_iff {half n : Int} : inWord half n = true ↔ -half ≤ n ∧ n < half :=
  decide_eq_true_iff

theorem hasStamp_iff {seconds : Int} :
    HasStamp seconds ↔
      inWord 0x80000000 ((ofSeconds seconds).year - 1900) = true ∧
        inWord 0x80000000 (ofSeconds seconds).year = true := by
  have first : newYear (-2147481748) = -67768040609740800 := by decide
  have last : newYear 2147483648 = 67767976233532800 := by decide
  have before_first := year_lt_iff seconds (-2147481748)
  have before_last := year_lt_iff seconds 2147483648
  rw [HasStamp, inWord_iff, inWord_iff]
  omega

/-- A time has a stamp exactly when it is not too far away. -/
theorem stamp?_eq_ok_iff {seconds : Int} {stamp : Text} :
    stamp? seconds = .ok stamp ↔ HasStamp seconds ∧ stamp = (ofSeconds seconds).stamp := by
  rw [hasStamp_iff]
  constructor
  · intro stamped
    unfold stamp? at stamped
    dsimp only at stamped
    split at stamped
    · cases stamped
    · split at stamped
      · cases stamped
      · next calendar =>
          split at stamped
          · cases stamped
          · next year =>
              cases stamped
              simp only [Bool.not_eq_true', Bool.not_eq_false] at calendar year
              exact ⟨⟨calendar, year⟩, rfl⟩
  · rintro ⟨⟨calendar, year⟩, rfl⟩
    have near : HasStamp seconds := hasStamp_iff.2 ⟨calendar, year⟩
    -- The limit of the seconds is never met: the years end before it.
    have seconds_fit : inWord 0x8000000000000000 seconds = true := by
      rw [inWord_iff]
      exact ⟨Int.le_trans (by decide) near.1, Int.lt_trans near.2 (by decide)⟩
    unfold stamp?
    rw [seconds_fit]
    dsimp only
    rw [calendar, year]
    rfl

end CivilTime

end FacetedSearch
