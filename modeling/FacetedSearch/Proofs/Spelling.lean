/-
Module: FacetedSearch.Proofs.Spelling
Purpose: The grammar of durations over the characters that are typed. A letter may be typed small,
  as its capital, or as the Kelvin sign if it is k; digits have one form. What is typed stands for
  small letters exactly when its lower case is these letters, whatever becomes of the other
  characters, so the reader finds the durations of the grammar and nothing else.
Imports: FacetedSearch.Proofs.Duration
Main exports: Text.StandsFor, Text.Lowers, Text.Lowers.eq_iff, Duration.Spells,
  Duration.ofLower?_eq_some_iff_spells, Duration.ofText?_eq_some_iff_spells,
  Duration.reads_grammar
-/
import Mathlib
import FacetedSearch.Proofs.Duration

namespace FacetedSearch

/-!
### Lower case

Of lower case no more is used than this: the characters of ASCII become small letters or stay, two
others become one such letter or begin with one, and no other character leaves any trace in ASCII
or vanishes.
-/

namespace Text

/-- A character that a letter may be typed as: itself, its capital, the Kelvin sign. -/
def StandsFor (c letter : Char) : Prop :=
  c = letter ∨ c = letter.toUpper ∨ c = '\u212a' ∧ letter = 'k'

/-- A character of ASCII that is no capital, such as a digit or a letter of a unit. -/
structure IsSmall (letter : Char) : Prop where
  isAscii : letter.isAscii = true
  not_isUpper : ¬ letter.isUpper = true

/-- What is known of the lower case of a character. -/
inductive LowersTo : Char → Text → Prop where
  | ascii {c : Char} (isAscii : c.isAscii = true) : LowersTo c [c.toLower]
  | kelvin : LowersTo '\u212a' ['k']
  | dotted : LowersTo '\u0130' ['i', '\u0307']
  | other {c : Char} {part : Text} (not_ascii : ¬ c.isAscii = true) (not_kelvin : c ≠ '\u212a')
      (not_dotted : c ≠ '\u0130') (not_empty : part ≠ [])
      (no_ascii : ∀ d ∈ part, ¬ d.isAscii = true) : LowersTo c part

/-- A lower case of a text, character by character. -/
inductive Lowers : Text → Text → Prop where
  | nil : Lowers [] []
  | cons {c : Char} {part text lowered : Text} (first : LowersTo c part)
      (rest : Lowers text lowered) : Lowers (c :: text) (part ++ lowered)

theorem isAscii_of_isUpper {c : Char} (upper : c.isUpper = true) : c.isAscii = true := by
  simp only [Char.isUpper, decide_eq_true_eq] at upper
  have last : c.toNat ≤ 'Z'.toNat := upper.2
  have within : 'Z'.toNat < 128 := by decide
  simp only [Char.isAscii, decide_eq_true_eq]
  exact Nat.lt_of_le_of_lt last within

theorem toLower_of_not_ascii {c : Char} (not_ascii : ¬ c.isAscii = true) : c.toLower = c :=
  Char.toLower_eq_of_not_isUpper fun upper => not_ascii (isAscii_of_isUpper upper)

theorem lowersTo_lowerChar (c : Char) : LowersTo c (lowerChar c) := by
  unfold lowerChar
  split
  · next kelvin => exact kelvin ▸ .kelvin
  · next not_kelvin =>
      split
      · next dotted => exact dotted ▸ .dotted
      · next not_dotted =>
          by_cases isAscii : c.isAscii = true
          · exact .ascii isAscii
          · rw [toLower_of_not_ascii isAscii]
            refine .other isAscii not_kelvin not_dotted (List.cons_ne_nil _ _) fun d mem => ?_
            rwa [List.mem_singleton.1 mem]

theorem lowers_lower (text : Text) : Lowers text text.lower := by
  induction text with
  | nil => exact .nil
  | cons c text ih =>
      rw [Duration.lower_cons]
      exact .cons (lowersTo_lowerChar c) ih

/-!
What stands for a small letter has that letter for its lower case, and nothing else has it for the
beginning of its lower case, unless something outside ASCII follows.
-/

theorem standsFor_toLower (c : Char) : StandsFor c c.toLower := by
  by_cases upper : c.isUpper = true
  · refine Or.inr (Or.inl ?_)
    have not_lower := Char.not_isLower_of_isUpper upper
    rw [Char.toUpper_toLower_eq_toUpper, Char.toUpper_eq_of_not_isLower not_lower]
  · exact Or.inl (Char.toLower_eq_of_not_isUpper upper).symm

theorem StandsFor.toLower_eq {c letter : Char} (stands : StandsFor c letter)
    (small : IsSmall letter) (not_kelvin : c ≠ '\u212a') : c.toLower = letter := by
  have own : letter.toLower = letter := Char.toLower_eq_of_not_isUpper small.not_isUpper
  rcases stands with rfl | rfl | ⟨kelvin, _⟩
  · exact own
  · rw [Char.toLower_toUpper_eq_toLower, own]
  · exact absurd kelvin not_kelvin

theorem LowersTo.eq_of_standsFor {c letter : Char} {part : Text} (lowers : LowersTo c part)
    (small : IsSmall letter) (stands : StandsFor c letter) : part = [letter] := by
  -- Only the Kelvin sign differs from its own lower case without being a capital of ASCII. Whatever
  -- else is outside ASCII would make the letter itself lie outside it.
  cases lowers with
  | ascii isAscii =>
      have not_kelvin : c ≠ '\u212a' := by
        rintro rfl
        cases isAscii
      rw [stands.toLower_eq small not_kelvin]
  | kelvin =>
      have outside : ¬ '\u212a'.isAscii = true := by decide
      rcases stands with rfl | capital | ⟨_, rfl⟩
      · exact absurd small.isAscii outside
      · have own : letter.toLower = letter := Char.toLower_eq_of_not_isUpper small.not_isUpper
        have same : letter = '\u212a' := by
          rw [← own, ← Char.toLower_toUpper_eq_toLower, ← capital]
          rfl
        exact absurd (same ▸ small.isAscii) outside
      · rfl
  | dotted =>
      have same : '\u0130'.toLower = letter := stands.toLower_eq small (by decide)
      have outside : ¬ '\u0130'.toLower.isAscii = true := by decide
      exact absurd (same ▸ small.isAscii) outside
  | other not_ascii not_kelvin =>
      have same : c.toLower = letter := stands.toLower_eq small not_kelvin
      rw [toLower_of_not_ascii not_ascii] at same
      exact absurd (same ▸ small.isAscii) not_ascii

theorem LowersTo.standsFor_of_append_eq {c letter : Char} {part lowered letters : Text}
    (lowers : LowersTo c part) (small : ∀ l ∈ letter :: letters, IsSmall l)
    (same : part ++ lowered = letter :: letters) : StandsFor c letter ∧ lowered = letters := by
  cases lowers with
  | ascii isAscii =>
      obtain ⟨rfl, rest⟩ := List.cons.inj same
      exact ⟨standsFor_toLower c, rest⟩
  | kelvin =>
      obtain ⟨rfl, rest⟩ := List.cons.inj same
      exact ⟨Or.inr (Or.inr ⟨rfl, rfl⟩), rest⟩
  | dotted =>
      -- The letter would be i, but the dot above behind it is no letter.
      obtain ⟨rfl, rfl⟩ := List.cons.inj same
      have dot := small '\u0307' (List.mem_cons_of_mem _ List.mem_cons_self)
      exact absurd dot.isAscii (by decide)
  | other _ _ _ not_empty no_ascii =>
      cases part with
      | nil => exact absurd rfl not_empty
      | cons d part =>
          obtain ⟨rfl, _⟩ := List.cons.inj same
          exact absurd (small d List.mem_cons_self).isAscii (no_ascii d List.mem_cons_self)

/-- The lower case of a text is given small letters exactly when the text is typed for them. The
induction is on the lower case: one character accounts for one letter, neither less nor more. -/
theorem Lowers.eq_iff {text lowered : Text} (lowers : Lowers text lowered) {letters : Text}
    (small : ∀ l ∈ letters, IsSmall l) :
    lowered = letters ↔ List.Forall₂ StandsFor text letters := by
  induction lowers generalizing letters with
  | nil => exact ⟨fun none => none ▸ .nil, fun stands => (List.forall₂_nil_left_iff.1 stands).symm⟩
  | @cons c part text lowered first _ ih =>
      cases letters with
      | nil =>
          refine iff_of_false ?_ fun stands => by cases stands
          intro none
          cases first with
          | other _ _ _ not_empty => exact not_empty (List.append_eq_nil_iff.1 none).1
          | ascii | kelvin | dotted => cases none
      | cons letter letters =>
          have small_rest : ∀ l ∈ letters, IsSmall l :=
            fun l mem => small l (List.mem_cons_of_mem _ mem)
          rw [List.forall₂_cons]
          constructor
          · intro same
            obtain ⟨stands, rest⟩ := first.standsFor_of_append_eq small same
            exact ⟨stands, (ih small_rest).1 rest⟩
          · rintro ⟨stands, rest⟩
            rw [first.eq_of_standsFor (small letter List.mem_cons_self) stands,
              (ih small_rest).2 rest]
            rfl

end Text

namespace Duration

open Text

/-!
### The grammar
-/

/-- How a duration is typed: digits alone, or a unit behind them, or a unit in the plural. -/
inductive Spells : Text → Duration → Prop where
  | number {digits : Text} (isDigits : Numeral.isDigits digits = true) :
      Spells digits ⟨digits, none, false⟩
  | singular {digits word : Text} {unit : Unit} (isDigits : Numeral.isDigits digits = true)
      (named : List.Forall₂ StandsFor word unit.name) :
      Spells (digits ++ word) ⟨digits, some unit, false⟩
  | plural {digits word : Text} {unit : Unit} {s : Char}
      (isDigits : Numeral.isDigits digits = true)
      (named : List.Forall₂ StandsFor word unit.name) (final : StandsFor s 's') :
      Spells (digits ++ word ++ [s]) ⟨digits, some unit, true⟩

theorem isDigits_iff {digits : Text} :
    Numeral.isDigits digits = true ↔ digits ≠ [] ∧ ∀ c ∈ digits, c.isDigit = true := by
  simp [Numeral.isDigits]

theorem isSmall_of_isDigit {c : Char} (digit : c.isDigit = true) : IsSmall c := by
  refine ⟨?_, not_isUpper_of_isDigit digit⟩
  rw [Char.isDigit_iff_toNat] at digit
  have within : '9'.toNat < 128 := by decide
  simp only [Char.isAscii, decide_eq_true_eq]
  exact Nat.lt_of_le_of_lt digit.2 within

theorem isSmall_of_mem_ending {unit : Option Unit} {plural : Bool} {c : Char}
    (mem : c ∈ ending unit plural) : IsSmall c := by
  have all : (ending unit plural).all (fun l => l.isAscii && !l.isUpper) = true := by
    cases unit with
    | none => rfl
    | some unit => cases unit <;> cases plural <;> rfl
  have small := List.all_eq_true.1 all c mem
  rw [Bool.and_eq_true, Bool.not_eq_true'] at small
  exact ⟨small.1, by simp [small.2]⟩

theorem isSmall_of_mem_toText {duration : Duration}
    (isDigit : ∀ c ∈ duration.digits, c.isDigit = true) (c : Char) (mem : c ∈ duration.toText) :
    IsSmall c := by
  rw [toText_eq] at mem
  rcases List.mem_append.1 mem with digit | letter
  · exact isSmall_of_isDigit (isDigit c digit)
  · exact isSmall_of_mem_ending letter

theorem not_isLower_of_isDigit {c : Char} (digit : c.isDigit = true) : ¬ c.isLower = true := by
  rw [Char.isDigit_iff_toNat] at digit
  have apart : '9'.toNat < 'a'.toNat := by decide
  intro lower
  simp only [Char.isLower, Bool.and_eq_true, decide_eq_true_eq] at lower
  have first : 'a'.toNat ≤ c.toNat := lower.1
  omega

theorem eq_of_standsFor_digit {c digit : Char} (stands : StandsFor c digit)
    (isDigit : digit.isDigit = true) : c = digit := by
  rcases stands with same | capital | ⟨_, rfl⟩
  · exact same
  · rw [capital, Char.toUpper_eq_of_not_isLower (not_isLower_of_isDigit isDigit)]
  · cases isDigit

/-- Digits are typed in one way only. -/
theorem forall₂_standsFor_digits {text digits : Text}
    (isDigit : ∀ c ∈ digits, c.isDigit = true) :
    List.Forall₂ StandsFor text digits ↔ text = digits := by
  constructor
  · intro stands
    induction stands with
    | nil => rfl
    | @cons c digit text digits first _ ih =>
        obtain ⟨digit_first, digit_rest⟩ := List.forall_mem_cons.1 isDigit
        rw [eq_of_standsFor_digit first digit_first, ih digit_rest]
  · rintro rfl
    exact List.forall₂_same.2 fun c _ => Or.inl rfl

/-- The grammar, told by the letters of the duration in lower case. -/
theorem spells_iff {text : Text} {duration : Duration} :
    Spells text duration ↔
      List.Forall₂ StandsFor text duration.toText ∧ duration.digits ≠ [] ∧
        (∀ c ∈ duration.digits, c.isDigit = true) ∧
        (duration.plural = true → duration.unit ≠ none) := by
  constructor
  · intro spells
    cases spells with
    | number isDigits =>
        obtain ⟨not_empty, isDigit⟩ := isDigits_iff.1 isDigits
        refine ⟨?_, not_empty, isDigit, fun absurd => by cases absurd⟩
        rw [toText_eq, ending, List.append_nil]
        exact (forall₂_standsFor_digits isDigit).2 rfl
    | singular isDigits named =>
        obtain ⟨not_empty, isDigit⟩ := isDigits_iff.1 isDigits
        refine ⟨?_, not_empty, isDigit, fun _ => by simp⟩
        exact List.rel_append ((forall₂_standsFor_digits isDigit).2 rfl) named
    | plural isDigits named final =>
        obtain ⟨not_empty, isDigit⟩ := isDigits_iff.1 isDigits
        refine ⟨?_, not_empty, isDigit, fun _ => by simp⟩
        rw [List.append_assoc]
        have word_and_s := List.rel_append named (List.Forall₂.cons final .nil)
        exact List.rel_append ((forall₂_standsFor_digits isDigit).2 rfl) word_and_s
  · rcases duration with ⟨digits, unit, plural⟩
    rintro ⟨stands, not_empty, isDigit, unit_of⟩
    have isDigits : Numeral.isDigits digits = true := isDigits_iff.2 ⟨not_empty, isDigit⟩
    rw [toText_eq] at stands
    -- As many characters are typed as there are letters, so the text is cut by counting.
    have first := List.forall₂_take_append _ _ _ stands
    have second := List.forall₂_drop_append _ _ _ stands
    rw [forall₂_standsFor_digits isDigit] at first
    rw [← List.take_append_drop digits.length text, first]
    generalize text.drop digits.length = typed at second
    cases unit with
    | none =>
        cases plural with
        | true => exact absurd rfl (unit_of rfl)
        | false =>
            rw [List.forall₂_nil_right_iff.1 second, List.append_nil]
            exact .number isDigits
    | some unit =>
        cases plural with
        | false => exact .singular isDigits second
        | true =>
            have named := List.forall₂_take_append _ _ _ second
            have final := List.forall₂_drop_append _ _ _ second
            obtain ⟨s, rest, final, none, drop⟩ := List.forall₂_cons_right_iff.1 final
            rw [List.forall₂_nil_right_iff.1 none] at drop
            rw [← List.take_append_drop unit.name.length typed, drop, ← List.append_assoc]
            exact .plural isDigits named final

/-- On any lower case of a text the reader finds the duration that the text spells. -/
theorem ofLower?_eq_some_iff_spells {text lowered : Text} (lowers : Lowers text lowered)
    {duration : Duration} : ofLower? lowered = some duration ↔ Spells text duration := by
  rw [ofLower?_eq_some_iff, spells_iff]
  constructor
  · rintro ⟨lower_eq, not_empty, isDigit, unit_of⟩
    exact ⟨(lowers.eq_iff (isSmall_of_mem_toText isDigit)).1 lower_eq, not_empty, isDigit, unit_of⟩
  · rintro ⟨stands, not_empty, isDigit, unit_of⟩
    exact ⟨(lowers.eq_iff (isSmall_of_mem_toText isDigit)).2 stands, not_empty, isDigit, unit_of⟩

theorem ofText?_eq_some_iff_spells {text : Text} {duration : Duration} :
    ofText? text = some duration ↔ Spells text duration :=
  ofLower?_eq_some_iff_spells (lowers_lower text)

theorem isSpelledBy_iff_spells {text : Text} {duration : Duration} :
    duration.IsSpelledBy text ↔ Spells text duration := by
  rw [← ofText?_eq_some_iff, ofText?_eq_some_iff_spells]

/-!
### The number of seconds
-/

/-- Digits stand for a number in the decimal system; the first of them counts most. -/
theorem value_eq_ofDigits (digits : Text) :
    Numeral.value digits =
      Nat.ofDigits 10 (digits.reverse.map fun c => c.toNat - '0'.toNat) := by
  rw [Numeral.value, Nat.ofDigitChars_eq_foldl, Nat.ofDigits_eq_foldr, List.map_reverse,
    List.foldr_reverse, List.foldl_map]
  congr 1
  funext sofar c
  exact Nat.add_comm _ _

theorem seconds?_of_spells {text : Text} {duration : Duration} (spells : Spells text duration)
    (short : duration.digits.length ≤ digitLimit) :
    seconds? text = .ok (some duration.seconds) := by
  rw [seconds?, ofText?_eq_some_iff_spells.2 spells]
  exact if_neg (Nat.not_lt_of_le short)

theorem seconds?_of_spells_long {text : Text} {duration : Duration}
    (spells : Spells text duration) (long : digitLimit < duration.digits.length) :
    seconds? text = .error ⟨duration.digits.length⟩ :=
  seconds?_eq_error_iff.2 ⟨duration, isSpelledBy_iff_spells.2 spells, long, rfl⟩

theorem seconds?_eq_none_iff {text : Text} :
    seconds? text = .ok none ↔ ¬ ∃ duration, Spells text duration := by
  cases read : ofText? text with
  | none =>
      refine iff_of_true ?_ ?_
      · rw [seconds?, read]
      · rintro ⟨duration, spells⟩
        cases read.symm.trans (ofText?_eq_some_iff_spells.2 spells)
  | some duration =>
      have spells := ofText?_eq_some_iff_spells.1 read
      refine iff_of_false ?_ fun unspelled => unspelled ⟨duration, spells⟩
      intro none
      by_cases long : digitLimit < duration.digits.length
      · cases none.symm.trans (seconds?_of_spells_long spells long)
      · cases none.symm.trans (seconds?_of_spells spells (Nat.le_of_not_lt long))

theorem TooLong.message_eq (error : TooLong) :
    error.message =
      "Exceeds the limit (4300 digits) for integer string conversion: value has ".toList ++
        Numeral.ofNat error.digits ++
        " digits; use sys.set_int_max_str_digits() to increase the limit".toList := by
  have front : limitMessage ++ ": value has ".toList =
      "Exceeds the limit (4300 digits) for integer string conversion: value has ".toList := by
    decide
  have back : " digits".toList ++ limitAdvice =
      " digits; use sys.set_int_max_str_digits() to increase the limit".toList := by
    decide
  rw [message, front, List.append_assoc, back]

/-- A text is read as a duration, be it into seconds or into the report of too many digits, exactly
when it is typed as the grammar says: digits of ASCII, then perhaps a unit, then perhaps an s, in
letters of either case or with the Kelvin sign for k. There is one such reading. Up to 4300 digits
its value is the decimal number times the length of the unit, a second if there is none; beyond,
the report names the count of digits. What other characters become in lower case does not matter, as
long as they do not vanish and nothing of ASCII comes of them. -/
theorem reads_grammar (text : Text) :
    (seconds? text ≠ .ok none ↔ ∃ duration, Spells text duration) ∧
    (∀ first second, Spells text first → Spells text second → first = second) ∧
    (∀ duration, Spells text duration →
      (duration.digits.length ≤ 4300 →
        seconds? text = .ok (some
          (Nat.ofDigits 10 (duration.digits.reverse.map fun c => c.toNat - '0'.toNat) *
            (duration.unit.elim 1 Unit.seconds)))) ∧
      (4300 < duration.digits.length →
        ∃ error, seconds? text = .error error ∧ error.message =
          "Exceeds the limit (4300 digits) for integer string conversion: value has ".toList ++
            Numeral.ofNat duration.digits.length ++
            " digits; use sys.set_int_max_str_digits() to increase the limit".toList)) ∧
    (Unit.all.map fun unit => (unit.name, unit.seconds)) =
      [("sec".toList, 1), ("min".toList, 60), ("hour".toList, 3600), ("day".toList, 86400),
        ("week".toList, 604800), ("month".toList, 2592000), ("year".toList, 31536000)] ∧
    (∀ unit : Unit, unit ∈ Unit.all) ∧
    (∀ lowered, Lowers text lowered → ofLower? lowered = ofText? text) := by
  refine ⟨?accepted, ?unique, ?value, by decide, ?every, ?lowering⟩
  case accepted => rw [Ne, seconds?_eq_none_iff, not_not]
  case unique =>
    intro first second one other
    rw [← ofText?_eq_some_iff_spells] at one other
    exact Option.some.inj (one.symm.trans other)
  case value =>
    intro duration spells
    have unit_seconds :
        (duration.unit.getD .second).seconds = duration.unit.elim 1 Unit.seconds := by
      cases duration.unit <;> rfl
    constructor
    · intro short
      rw [seconds?_of_spells spells short, seconds, value_eq_ofDigits, unit_seconds]
    · intro long
      exact ⟨_, seconds?_of_spells_long spells long, TooLong.message_eq _⟩
  case every =>
    intro unit
    cases unit <;> decide
  case lowering =>
    intro lowered lowers
    ext duration
    rw [ofLower?_eq_some_iff_spells lowers, ofText?_eq_some_iff_spells]

end Duration

end FacetedSearch
