/-
Module: FacetedSearch.Proofs.Log.Stamp
Purpose: What the time stamp of a log line denotes. A stamp is read field by field, and the stamp of a
  time reads as the date and time that counts the whole seconds of it. No year is too large for this;
  only the record of a time whose year cannot be written has no line.
Imports: FacetedSearch.Proofs.Gregorian, FacetedSearch.Proofs.Log.Line
Main exports: CivilTime.ofStamp?, CivilTime.ofStamp?_stamp, Log.StampedWith,
  Log.Record.stampedWith_of_line, Log.stamps_denote_seconds
-/
import FacetedSearch.Proofs.Gregorian
import FacetedSearch.Proofs.Log.Line

namespace FacetedSearch

namespace Numeral

/-- The zeros in front count for nothing. -/
@[simp] theorem value_padded (width n : Nat) : value (padded width n) = n := by
  have plain := value_ofNat n
  unfold value at plain ⊢
  rw [padded, List.leftpad, Nat.ofDigitChars_append, Nat.ofDigitChars_replicate_zero,
    Nat.mul_zero, plain]

@[simp] theorem isDigits_padded (width n : Nat) : isDigits (padded width n) = true := by
  have digits : ∀ c ∈ padded width n, c.isDigit = true := by
    intro c mem
    rcases List.mem_append.1 mem with zero | digit
    · rw [List.eq_of_mem_replicate zero]
      rfl
    · exact isDigit_of_mem_ofNat digit
  have not_empty : padded width n ≠ [] := by
    simp [padded, List.leftpad, ofNat_ne_nil]
  simpa [isDigits, not_empty] using digits

end Numeral

namespace CivilTime

/-!
### Reading a stamp
-/

/-- The number that ends at a mark, and what stands behind the mark. -/
def numberUpTo? (mark : Char) (text : Text) : Option (Nat × Text) :=
  match text.cut? mark with
  | some (digits, rest) =>
      if Numeral.isDigits digits then some (Numeral.value digits, rest) else none
  | none => none

/-- The date and time of a stamp: each field is a number up to a mark of its own, and nothing stands
behind the last mark. -/
def ofStamp? (stamp : Text) : Option CivilTime := do
  let (year, rest) ← numberUpTo? '-' stamp
  let (month, rest) ← numberUpTo? '-' rest
  let (day, rest) ← numberUpTo? 'T' rest
  let (hour, rest) ← numberUpTo? ':' rest
  let (minute, rest) ← numberUpTo? ':' rest
  let (second, rest) ← numberUpTo? 'Z' rest
  if rest = [] then some ⟨year, month, day, hour, minute, second⟩ else none

theorem numberUpTo?_append {mark : Char} (not_digit : mark.isDigit = false) {digits : Text}
    (isDigits : Numeral.isDigits digits = true) (rest : Text) :
    numberUpTo? mark (digits ++ mark :: rest) = some (Numeral.value digits, rest) := by
  have first : mark ∉ digits := by
    intro mem
    have digit : mark.isDigit = true := by
      simp only [Numeral.isDigits, Bool.and_eq_true, List.all_eq_true] at isDigits
      exact isDigits.2 mark mem
    rw [not_digit] at digit
    cases digit
  have cut : (digits ++ mark :: rest).cut? mark = some (digits, rest) :=
    Text.cut?_eq_some_iff.2 ⟨rfl, first⟩
  simp [numberUpTo?, cut, isDigits]

/-- The stamp of a date reads as that date, however many digits its year has. -/
theorem ofStamp?_stamp {time : CivilTime} (positive : 0 ≤ time.year) :
    ofStamp? time.stamp = some time := by
  obtain ⟨year, month, day, hour, minute, second⟩ := time
  obtain ⟨year, rfl⟩ := Int.eq_ofNat_of_zero_le positive
  have written : Numeral.ofInt year = Numeral.ofNat year := rfl
  simp [ofStamp?, stamp, written, numberUpTo?_append]

end CivilTime

namespace Log

open CivilTime (ofStamp? yearStart HasStamp)

/-!
### The stamp of a line
-/

/-- The line reads as an object with the stamp under `ts` in front, and with no second `ts`. -/
def StampedWith (line stamp : Text) : Prop :=
  ∃ members, Json.read? line = some (.obj (("ts".toList, .str stamp) :: members)) ∧
    "ts".toList ∉ members.map Prod.fst

namespace Record

variable {record : Record}

/-- The stamp stands in front, and no other member has its name. -/
theorem Shows.exists_behind_stamp {text : Text} {members : List (Text × Json)}
    (shows : record.Shows text members) :
    ∃ behind, members = ("ts".toList, .str (stampAt record.created)) :: behind ∧
      "ts".toList ∉ behind.map Prod.fst := by
  have distinct := shows.nodup
  cases shows with
  | whole => exact ⟨_, rfl, (List.nodup_cons.1 distinct).1⟩
  | failed => exact ⟨_, rfl, (List.nodup_cons.1 distinct).1⟩

/-- A line shows the stamp of its record's time. -/
theorem stampedWith_of_line {line : Text} (written : record.line? = .ok line) :
    StampedWith line (stampAt record.created) := by
  obtain ⟨text, members, _, reads, shows⟩ := read?_line written
  obtain ⟨behind, rfl, alone⟩ := shows.exists_behind_stamp
  exact ⟨behind, reads, alone⟩

theorem line?_of_not_hasStamp (undated : ¬ HasStamp record.created.floor) :
    (∃ fault, record.stamp? = .error fault) ∧ ∃ reason, record.line? = .error reason := by
  constructor
  · cases found : record.stamp? with
    | error fault => exact ⟨fault, rfl⟩
    | ok stamp => exact absurd (CivilTime.stamp?_eq_ok_iff.1 found).1 undated
  · cases outcome : record.line? with
    | error reason => exact ⟨reason, rfl⟩
    | ok line =>
        obtain ⟨text, writable, _⟩ := line?_eq_ok_iff.1 outcome
        exact absurd writable.dated undated

end Record

/-!
### From the year 1 on
-/

theorem elapsed_yearOne : (yearStart 1).elapsed = -62135596800 := by
  have start : CivilTime.newYear (1 : Nat) = -62135596800 := by decide
  rw [CivilTime.elapsed_yearStart (le_refl 1), start]

/-- The first year that cannot be written. -/
theorem elapsed_firstLate : (yearStart 2147483648).elapsed = 67767976233532800 := by
  have start : CivilTime.newYear (2147483648 : Nat) = 67767976233532800 := by decide
  rw [CivilTime.elapsed_yearStart (by decide), start]

theorem hasStamp_iff_lt {seconds : Int} (modern : (yearStart 1).elapsed ≤ seconds) :
    HasStamp seconds ↔ seconds < (yearStart 2147483648).elapsed := by
  rw [elapsed_yearOne] at modern
  rw [elapsed_firstLate, HasStamp]
  omega

theorem ofStamp?_stampAt {created : Rat} (modern : (yearStart 1).elapsed ≤ created.floor) :
    ∃ time, ofStamp? (stampAt created) = some time ∧ time.IsDate ∧ time.elapsed = created.floor := by
  have from_one : CivilTime.newYear 1 ≤ created.floor := by
    rwa [CivilTime.elapsed_yearStart (le_refl 1)] at modern
  have date := CivilTime.isDate_ofSeconds from_one
  refine ⟨_, CivilTime.ofStamp?_stamp ?_, date, CivilTime.elapsed_ofSeconds from_one⟩
  have positive := date.year
  omega

/-- The stamp of a time from the year 1 on, however late, reads as the one date and time that counts
the whole seconds of it since 1970. Times have the same stamp when they fall into the same second, and
earlier seconds have earlier dates, field by field. Up to the end of the year 2147483647 this is the
stamp that records are written with; from then on there is neither a stamp nor a line. -/
theorem stamps_denote_seconds :
    (∀ created : Rat, (yearStart 1).elapsed ≤ created.floor →
      ∃ time, ofStamp? (stampAt created) = some time ∧ time.IsDate ∧
        time.elapsed = created.floor ∧
        ∀ other : CivilTime, other.IsDate → other.elapsed = created.floor → other = time) ∧
    (∀ first second : Rat, (yearStart 1).elapsed ≤ first.floor →
      (yearStart 1).elapsed ≤ second.floor →
      (stampAt first = stampAt second ↔ first.floor = second.floor) ∧
      ∀ time time', ofStamp? (stampAt first) = some time →
        ofStamp? (stampAt second) = some time' →
        (first.floor < second.floor ↔ time.fields < time'.fields)) ∧
    ∀ record : Record, (yearStart 1).elapsed ≤ record.created.floor →
      (record.created.floor < (yearStart 2147483648).elapsed →
        record.stamp? = .ok (stampAt record.created) ∧
        (∀ text, record.Writable text → ∃ line, record.line? = .ok line) ∧
        ∀ line, record.line? = .ok line → StampedWith line (stampAt record.created)) ∧
      ((yearStart 2147483648).elapsed ≤ record.created.floor →
        (∃ fault, record.stamp? = .error fault) ∧ ∃ reason, record.line? = .error reason) := by
  refine ⟨?denotes, ?ordered, ?written⟩
  case denotes =>
    intro created modern
    obtain ⟨time, reads, date, counts⟩ := ofStamp?_stampAt modern
    refine ⟨time, reads, date, counts, ?_⟩
    intro other other_date other_counts
    exact other_date.eq_of_elapsed_eq date (other_counts.trans counts.symm)
  case ordered =>
    intro first second modern modern'
    obtain ⟨time, reads, date, counts⟩ := ofStamp?_stampAt modern
    obtain ⟨time', reads', date', counts'⟩ := ofStamp?_stampAt modern'
    refine ⟨?_, ?_⟩
    · constructor
      · intro same
        rw [same, reads'] at reads
        rw [← counts, ← counts', Option.some.inj reads]
      · intro same
        simp [stampAt, same]
    · intro read read' found found'
      obtain rfl := Option.some.inj (reads.symm.trans found)
      obtain rfl := Option.some.inj (reads'.symm.trans found')
      rw [← counts, ← counts']
      exact date.elapsed_lt_iff date'
  case written =>
    intro record modern
    constructor
    · intro early
      have dated := (hasStamp_iff_lt modern).2 early
      refine ⟨Record.stamp?_of_hasStamp dated, ?_, ?_⟩
      · intro text writable
        exact ⟨_, Record.line?_eq_ok_iff.2 ⟨text, writable, rfl⟩⟩
      · intro line written
        exact Record.stampedWith_of_line written
    · intro late
      apply Record.line?_of_not_hasStamp
      rw [hasStamp_iff_lt modern]
      exact Int.not_lt.2 late

/-- Half a second before 1970. -/
def eve : Rat := -1 / 2

/-- A record of the leap day of a year that ends a century. -/
def leapDay : Record :=
  { logger := "n".toList, level := 20, message := "plain".toList, created := 951827696 + 1 / 2 }

/-- A record of the first second of the year 2147483648. -/
def late : Record :=
  { logger := "n".toList, level := 20, message := "plain".toList, created := 67767976233532800 }

theorem late_floor : late.created.floor = (yearStart 2147483648).elapsed := by
  rw [elapsed_firstLate]
  decide +kernel

theorem late_modern : (yearStart 1).elapsed ≤ late.created.floor := by
  rw [late_floor, elapsed_yearOne, elapsed_firstLate]
  decide

theorem stamps_denote_seconds_leapDay :
    (yearStart 1).elapsed ≤ eve.floor ∧ stampAt eve = "1969-12-31T23:59:59Z".toList ∧
      (∃ time, ofStamp? (stampAt eve) = some time ∧ time.IsDate ∧ time.elapsed = eve.floor) ∧
      leapDay.Writable "plain".toList ∧
      (∃ line, leapDay.line? = .ok line ∧ StampedWith line "2000-02-29T12:34:56Z".toList) ∧
      (∀ time time', ofStamp? (stampAt eve) = some time →
        ofStamp? (stampAt leapDay.created) = some time' → time.fields < time'.fields) ∧
      (yearStart 2147483648).elapsed ≤ late.created.floor ∧
      ∃ reason, late.line? = .error reason := by
  obtain ⟨denotes, ordered, written⟩ := stamps_denote_seconds
  have eve_floor : eve.floor = -1 := by decide +kernel
  have leapDay_floor : leapDay.created.floor = 951827696 := by decide +kernel
  have eve_modern : (yearStart 1).elapsed ≤ eve.floor := by
    rw [elapsed_yearOne, eve_floor]
    decide
  have modern : (yearStart 1).elapsed ≤ leapDay.created.floor := by
    rw [elapsed_yearOne, leapDay_floor]
    decide
  have early : leapDay.created.floor < (yearStart 2147483648).elapsed := by
    rw [elapsed_firstLate, leapDay_floor]
    decide
  have writable : leapDay.Writable "plain".toList :=
    { dated := (hasStamp_iff_lt modern).2 early
      fits := rfl
      level := Duration.isTooLong_eq_false_iff.1 Record.isTooLong_twenty
      numbers := Record.any_isTooLong_eq_false_iff.1 rfl }
  obtain ⟨time, reads, date, counts, _⟩ := denotes eve eve_modern
  obtain ⟨_, has_line, stamped⟩ := (written leapDay modern).1 early
  obtain ⟨line, line_written⟩ := has_line _ writable
  have stamp : stampAt leapDay.created = "2000-02-29T12:34:56Z".toList := by decide +kernel
  refine ⟨eve_modern, by decide +kernel, ⟨time, reads, date, counts⟩, writable,
    ⟨line, line_written, ?_⟩, ?_, late_floor.ge, ?_⟩
  · rw [← stamp]
    exact stamped line line_written
  · intro time time' found found'
    apply ((ordered eve leapDay.created eve_modern modern).2 time time' found found').1
    rw [eve_floor, leapDay_floor]
    decide
  · exact ((written late late_modern).2 late_floor.ge).2

/-- A time of that year has no stamp, and so its record has no line. -/
theorem late_unstamped :
    (yearStart 1).elapsed ≤ late.created.floor ∧ late.line? = .error (.time .year) ∧
      ¬ ∃ line stamp time, late.line? = .ok line ∧ StampedWith line stamp ∧
        ofStamp? stamp = some time ∧ time.elapsed = late.created.floor := by
  have unstamped : late.stamp? = .error .year := by decide +kernel
  have no_line := Record.line?_of_stamp?_error Record.isTooLong_twenty unstamped
  refine ⟨late_modern, no_line, ?_⟩
  rintro ⟨line, stamp, time, written, _⟩
  cases written.symm.trans no_line

end Log

end FacetedSearch
