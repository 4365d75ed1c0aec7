/-
Module: FacetedSearch.Proofs.Duration
Purpose: Which texts spell a duration, and which durations are read. A text spells one duration at
  most, digit for digit; it is read unless it has more digits than are read into a number, and it
  has no more digits than the text has characters.
Imports: FacetedSearch.Duration
Main exports: Duration.IsSpelledBy, Duration.ofText?_eq_some_iff, Duration.returns_iff,
  Duration.seconds?_eq_error_iff, Duration.IsSpelledBy.length_le
-/
import Mathlib
import FacetedSearch.Duration

namespace FacetedSearch

namespace Duration

/-!
### Spelling

The grammar of durations beside their reader: digits, and then nothing or a unit.
-/

/-- What is written behind the digits. -/
def ending (unit : Option Unit) (plural : Bool) : Text :=
  match unit with
  | none => []
  | some unit => if plural then unit.name ++ ['s'] else unit.name

/-- A text spells a duration, with letters in either case. Only a unit has a plural. -/
structure IsSpelledBy (duration : Duration) (text : Text) : Prop where
  lower_eq : text.lower = duration.toText
  digits_ne_nil : duration.digits ≠ []
  isDigit : ∀ c ∈ duration.digits, c.isDigit = true
  plural_unit : duration.plural = true → duration.unit ≠ none

theorem toText_eq (duration : Duration) :
    duration.toText = duration.digits ++ ending duration.unit duration.plural := rfl

theorem eq_ending_of_suffix? {text : Text} {unit : Option Unit} {plural : Bool}
    (h : suffix? text = some (unit, plural)) :
    text = ending unit plural ∧ (plural = true → unit ≠ none) := by
  unfold suffix? at h
  split at h
  · next empty =>
      cases h
      exact ⟨empty, fun absurd => by cases absurd⟩
  · split at h
    · next found =>
        cases h
        have named := List.find?_some found
        exact ⟨(beq_iff_eq.1 named).symm, fun _ => by simp⟩
    · split at h
      · next found =>
          cases h
          have named := List.find?_some found
          exact ⟨(beq_iff_eq.1 named).symm, fun _ => by simp⟩
      · cases h

theorem suffix?_ending {unit : Option Unit} {plural : Bool} (unit_of : plural = true → unit ≠ none) :
    suffix? (ending unit plural) = some (unit, plural) := by
  cases unit with
  | none =>
      cases plural with
      | false => rfl
      | true => exact absurd rfl (unit_of rfl)
  | some unit => cases unit <;> cases plural <;> rfl

theorem takeWhile_ending (unit : Option Unit) (plural : Bool) :
    (ending unit plural).takeWhile Char.isDigit = [] := by
  cases unit with
  | none => rfl
  | some unit => cases unit <;> cases plural <;> rfl

theorem dropWhile_ending (unit : Option Unit) (plural : Bool) :
    (ending unit plural).dropWhile Char.isDigit = ending unit plural := by
  cases unit with
  | none => rfl
  | some unit => cases unit <;> cases plural <;> rfl

/-- The reader of lower case finds the duration that is written there, and no other. -/
theorem ofLower?_eq_some_iff {lowered : Text} {duration : Duration} :
    ofLower? lowered = some duration ↔
      lowered = duration.toText ∧ duration.digits ≠ [] ∧
        (∀ c ∈ duration.digits, c.isDigit = true) ∧
        (duration.plural = true → duration.unit ≠ none) := by
  unfold ofLower?
  constructor
  · intro h
    dsimp only at h
    split at h
    · cases h
    · next not_empty =>
        obtain ⟨⟨unit, plural⟩, suffix, rfl⟩ := Option.map_eq_some_iff.1 h
        obtain ⟨rest, unit_of⟩ := eq_ending_of_suffix? suffix
        refine ⟨?_, not_empty, fun c mem => List.mem_takeWhile_imp mem, unit_of⟩
        rw [toText_eq, ← rest, List.takeWhile_append_dropWhile]
  · rintro ⟨rfl, not_empty, isDigit, unit_of⟩
    rw [toText_eq, List.takeWhile_append_of_pos isDigit,
      List.dropWhile_append_of_pos isDigit, takeWhile_ending, dropWhile_ending, suffix?_ending unit_of,
      List.append_nil]
    simp [not_empty]

/-- The reader finds the duration that a text spells, and no other. -/
theorem ofText?_eq_some_iff {text : Text} {duration : Duration} :
    ofText? text = some duration ↔ duration.IsSpelledBy text := by
  rw [ofText?, ofLower?_eq_some_iff]
  constructor
  · rintro ⟨lower_eq, not_empty, isDigit, unit_of⟩
    exact ⟨lower_eq, not_empty, isDigit, unit_of⟩
  · rintro ⟨lower_eq, not_empty, isDigit, unit_of⟩
    exact ⟨lower_eq, not_empty, isDigit, unit_of⟩

/-!
### The digit limit
-/

theorem seconds?_eq_error_iff {text : Text} {tooLong : TooLong} :
    seconds? text = .error tooLong ↔
      ∃ duration : Duration, duration.IsSpelledBy text ∧ digitLimit < duration.digits.length ∧
        tooLong = ⟨duration.digits.length⟩ := by
  unfold seconds?
  constructor
  · intro h
    split at h
    · cases h
    · next duration read =>
        split at h
        · next long =>
            cases h
            exact ⟨duration, ofText?_eq_some_iff.1 read, long, rfl⟩
        · cases h
  · rintro ⟨duration, spelled, long, rfl⟩
    rw [ofText?_eq_some_iff.2 spelled]
    exact if_pos long

/-- A text is read, be it as a duration or as none, unless it spells one with too many digits. -/
theorem returns_iff {text : Text} :
    (∃ reading, seconds? text = .ok reading) ↔
      ∀ duration : Duration, duration.IsSpelledBy text → duration.digits.length ≤ digitLimit := by
  cases outcome : seconds? text with
  | ok reading =>
      refine iff_of_true ⟨reading, rfl⟩ ?_
      intro duration spelled
      by_contra long
      have failed := seconds?_eq_error_iff.2 ⟨duration, spelled, Nat.lt_of_not_le long, rfl⟩
      cases failed.symm.trans outcome
  | error tooLong =>
      obtain ⟨duration, spelled, long, _⟩ := seconds?_eq_error_iff.1 outcome
      refine iff_of_false ?_ fun short => Nat.not_le_of_lt long (short duration spelled)
      rintro ⟨reading, read⟩
      cases read

theorem length_ofNat_le_iff (n : Nat) :
    (Numeral.ofNat n).length ≤ digitLimit ↔ n < 10 ^ digitLimit :=
  Nat.length_toDigits_le_iff (by decide) (by decide)

theorem isTooLong_eq_false_iff {number : Int} :
    isTooLong number = false ↔ number.natAbs < 10 ^ digitLimit := by
  unfold isTooLong
  rw [decide_eq_false_iff_not, Nat.not_lt, length_ofNat_le_iff]

/-!
### Digits and lower case

A digit has no other case, so digits alone spell a number of seconds.  Lower case makes some
characters two, but none of them digits, so a text has no fewer characters than digits it spells.
-/

theorem not_isUpper_of_isDigit {c : Char} (digit : c.isDigit = true) : ¬ c.isUpper = true := by
  rw [Char.isDigit_iff_toNat] at digit
  have apart : '9'.toNat < 'A'.toNat := by decide
  intro upper
  simp only [Char.isUpper, decide_eq_true_eq] at upper
  have first : 'A'.toNat ≤ c.toNat := upper.1
  omega

theorem lowerChar_of_isDigit {c : Char} (digit : c.isDigit = true) : Text.lowerChar c = [c] := by
  have not_kelvin : c ≠ '\u212a' := by
    rintro rfl
    cases digit
  have not_dotted : c ≠ '\u0130' := by
    rintro rfl
    cases digit
  rw [Text.lowerChar, if_neg not_kelvin, if_neg not_dotted,
    Char.toLower_eq_of_not_isUpper (not_isUpper_of_isDigit digit)]

theorem lower_cons (c : Char) (text : Text) :
    Text.lower (c :: text) = Text.lowerChar c ++ Text.lower text := List.flatMap_cons

theorem lower_of_isDigit {digits : Text} (isDigit : ∀ c ∈ digits, c.isDigit = true) :
    digits.lower = digits := by
  induction digits with
  | nil => rfl
  | cons c digits ih =>
      obtain ⟨first, rest⟩ := List.forall_mem_cons.1 isDigit
      rw [lower_cons, lowerChar_of_isDigit first, ih rest]
      rfl

theorem isSpelledBy_digits {digits : Text} (not_empty : digits ≠ [])
    (isDigit : ∀ c ∈ digits, c.isDigit = true) :
    IsSpelledBy ⟨digits, none, false⟩ digits := by
  refine ⟨?_, not_empty, isDigit, fun absurd => by cases absurd⟩
  rw [lower_of_isDigit isDigit]
  exact (List.append_nil digits).symm

theorem seconds?_digits {digits : Text} (isDigit : ∀ c ∈ digits, c.isDigit = true)
    (long : digitLimit < digits.length) :
    seconds? digits = .error ⟨digits.length⟩ := by
  have not_empty : digits ≠ [] :=
    List.ne_nil_of_length_pos (Nat.lt_of_le_of_lt (Nat.zero_le _) long)
  apply seconds?_eq_error_iff.2
  exact ⟨_, isSpelledBy_digits not_empty isDigit, long, rfl⟩

theorem countP_lowerChar_le (c : Char) : (Text.lowerChar c).countP Char.isDigit ≤ 1 := by
  unfold Text.lowerChar
  split
  · decide
  · split
    · decide
    · exact List.countP_le_length

theorem countP_lower_le (text : Text) : text.lower.countP Char.isDigit ≤ text.length := by
  induction text with
  | nil => exact Nat.le_refl 0
  | cons c text ih =>
      have first := countP_lowerChar_le c
      rw [lower_cons, List.countP_append, List.length_cons]
      omega

theorem IsSpelledBy.length_le {duration : Duration} {text : Text}
    (spelled : duration.IsSpelledBy text) : duration.digits.length ≤ text.length := by
  calc duration.digits.length
      = duration.digits.countP Char.isDigit := (List.countP_eq_length.2 spelled.isDigit).symm
    _ ≤ text.lower.countP Char.isDigit := by
        rw [spelled.lower_eq, toText_eq, List.countP_append]
        exact Nat.le_add_right _ _
    _ ≤ text.length := countP_lower_le text

end Duration

end FacetedSearch
