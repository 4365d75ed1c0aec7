/-
Module: FacetedSearch.Proofs.Json.Scalar
Purpose: Written strings and numbers are read back, whatever stands behind them. A string ends at its
  closing quote mark; a number ends where nothing follows that could belong to it.
Imports: FacetedSearch.Json.Printer, FacetedSearch.Json.Reader
Main exports: Json.readString?_escape, Json.EndsNumber, Json.readNumber?_ofInt,
  Json.readNumber?_decimal
-/
import Mathlib
import FacetedSearch.Json.Printer
import FacetedSearch.Json.Reader

namespace FacetedSearch

namespace Json

/-!
### Strings

One character at a time: the reader takes back what a character is escaped as, and goes on behind it.
-/

theorem hexValue4?_control {code : Nat} (control : code < 0x20) :
    hexValue4? '0' '0' (Nat.digitChar (code / 16)) (Nat.digitChar (code % 16)) = some code := by
  have zero : Text.hexValue? '0' = some 0 := by decide
  have high := Text.hexValue?_digitChar (n := code / 16) (by omega)
  have low := Text.hexValue?_digitChar (n := code % 16) (by omega)
  have whole : ((0 * 16 + 0) * 16 + code / 16) * 16 + code % 16 = code := by omega
  simp only [hexValue4?, zero, high, low, Option.bind_eq_bind, Option.bind_some, whole]
  rfl

theorem readString?_control {c : Char} (control : c.toNat < 0x20) (rest : Text) :
    readString? ("\\u00".toList ++
        [Nat.digitChar (c.toNat / 16), Nat.digitChar (c.toNat % 16)] ++ rest) =
      (readString? rest).map (prepend c) := by
  have plain : c.toNat < 0xD800 ∨ 0xDFFF < c.toNat := by omega
  have start : "\\u00".toList = ['\\', 'u', '0', '0'] := rfl
  rw [start, readString?.eq_def]
  simp [hexValue4?_control control, plain]

theorem readString?_escape_append (c : Char) (rest : Text) :
    readString? (escape c ++ rest) = (readString? rest).map (prepend c) := by
  unfold escape
  split
  · next quote => subst quote; rfl
  split
  · next backslash => subst backslash; rfl
  split
  · next feed => subst feed; rfl
  split
  · next carriage => subst carriage; rfl
  split
  · next tab => subst tab; rfl
  split
  · next backspace => subst backspace; rfl
  split
  · next page => subst page; rfl
  split
  · next control => exact readString?_control control rest
  · next not_quote not_backslash _ _ _ _ _ not_control =>
      rw [List.singleton_append, readString?.eq_def]
      simp only [if_neg not_quote, if_neg not_backslash, if_neg not_control]

/-- A string is read back up to its closing quote mark. -/
theorem readString?_escape (text rest : Text) :
    readString? (text.flatMap escape ++ '"' :: rest) = some (text, rest) := by
  induction text with
  | nil =>
      rw [List.flatMap_nil, List.nil_append, readString?.eq_def]
      exact if_pos rfl
  | cons c text ih =>
      rw [List.flatMap_cons, List.append_assoc, readString?_escape_append, ih]
      rfl

/-!
### Digits

A stretch of digits ends where no digit follows.  What follows is told by its first character.
-/

/-- The text does not start with a character of the class. -/
def StartsNot (belongs : Char → Prop) (text : Text) : Prop := ∀ c ∈ text.head?, ¬ belongs c

theorem StartsNot.imp {belongs other : Char → Prop} {text : Text} (starts : StartsNot belongs text)
    (wider : ∀ c, other c → belongs c) : StartsNot other text :=
  fun c mem held => starts c mem (wider c held)

theorem startsNot_cons {belongs : Char → Prop} {c : Char} {rest : Text} (other : ¬ belongs c) :
    StartsNot belongs (c :: rest) := by
  intro d mem
  cases mem
  exact other

theorem span_digits {digits rest : Text} (isDigit : ∀ c ∈ digits, c.isDigit = true)
    (ends : StartsNot (fun c => c.isDigit = true) rest) :
    (digits ++ rest).takeWhile Char.isDigit = digits ∧
      (digits ++ rest).dropWhile Char.isDigit = rest := by
  have stops : rest.takeWhile Char.isDigit = [] ∧ rest.dropWhile Char.isDigit = rest := by
    cases rest with
    | nil => exact ⟨rfl, rfl⟩
    | cons c rest =>
        have other : ¬ c.isDigit = true := ends c rfl
        exact ⟨List.takeWhile_cons_of_neg other, List.dropWhile_cons_of_neg other⟩
  rw [List.takeWhile_append_of_pos isDigit, List.dropWhile_append_of_pos isDigit, stops.1, stops.2,
    List.append_nil]
  exact ⟨rfl, rfl⟩

/-- A text that starts with digits starts with nothing else. -/
theorem digits_append_ne_cons {digits : Text} (isDigit : ∀ c ∈ digits, c.isDigit = true)
    (not_empty : digits ≠ []) {c : Char} (other : c.isDigit = false) (rest more : Text) :
    digits ++ rest ≠ c :: more := by
  intro same
  obtain ⟨first, digits, rfl⟩ := List.exists_cons_of_ne_nil not_empty
  obtain rfl : first = c := (List.cons.inj same).1
  have digit := isDigit first List.mem_cons_self
  rw [other] at digit
  cases digit

theorem digitOf_digitChar (digit : Fin 10) : digitOf (Nat.digitChar digit.val) = digit := by
  revert digit
  decide

theorem isDigit_digitChar (digit : Fin 10) : (Nat.digitChar digit.val).isDigit = true := by
  revert digit
  decide

theorem isDigit_of_mem_digits {digits : Digits} {c : Char} (mem : c ∈ digits.toText) :
    c.isDigit = true := by
  obtain ⟨digit, _, rfl⟩ := List.mem_map.1 mem
  exact isDigit_digitChar digit

theorem toText_append_ne_cons (digits : Digits) {c : Char} (other : c.isDigit = false)
    (rest more : Text) : digits.toText ++ rest ≠ c :: more :=
  digits_append_ne_cons (fun _ => isDigit_of_mem_digits) (List.cons_ne_nil _ _) other rest more

theorem readDigits?_toText (digits : Digits) {rest : Text}
    (ends : StartsNot (fun c => c.isDigit = true) rest) :
    readDigits? (digits.toText ++ rest) = some (digits, rest) := by
  obtain ⟨taken, dropped⟩ := span_digits (fun _ mem => isDigit_of_mem_digits mem) ends
  have back : digitOf ∘ (fun digit : Fin 10 => Nat.digitChar digit.val) = id :=
    funext digitOf_digitChar
  unfold readDigits?
  rw [taken, dropped]
  simp [Digits.toText, digitOf_digitChar, back]

/-!
### Numbers
-/

/-- A character that would go on with a number. -/
def GoesOn (c : Char) : Prop := c.isDigit = true ∨ c = '.' ∨ c = 'e' ∨ c = 'E'

/-- A number that stands before the text ends there. -/
def EndsNumber (text : Text) : Prop := StartsNot GoesOn text

theorem EndsNumber.noDigit {text : Text} (ends : EndsNumber text) :
    StartsNot (fun c => c.isDigit = true) text := ends.imp fun _ => Or.inl

theorem readExponent?_none {text : Text} (starts : StartsNot (fun c => c = 'e' ∨ c = 'E') text) :
    readExponent? text = some (none, text) := by
  cases text with
  | nil => rfl
  | cons c rest => exact if_neg (starts c rfl)

theorem readExponent?_unsigned {letter : Char} (marks : letter = 'e' ∨ letter = 'E')
    (digits : Digits) {rest : Text} (ends : StartsNot (fun c => c.isDigit = true) rest) :
    readExponent? (letter :: (digits.toText ++ rest)) =
      some (some ⟨letter = 'E', none, digits⟩, rest) := by
  simp only [readExponent?, if_pos marks]
  split
  · next minus => exact absurd minus (toText_append_ne_cons digits rfl _ _)
  · next plus => exact absurd plus (toText_append_ne_cons digits rfl _ _)
  · rw [readDigits?_toText digits ends]
    rfl

theorem readExponent?_toText (exponent : Exponent) {rest : Text}
    (ends : StartsNot (fun c => c.isDigit = true) rest) :
    readExponent? (exponent.toText ++ rest) = some (some exponent, rest) := by
  obtain ⟨capital, sign, digits⟩ := exponent
  cases sign with
  | some minus =>
      have read := readDigits?_toText digits ends
      cases capital <;> cases minus <;> simp [Exponent.toText, readExponent?, read]
  | none =>
      cases capital with
      | false => exact readExponent?_unsigned (Or.inl rfl) digits ends
      | true => exact readExponent?_unsigned (Or.inr rfl) digits ends

theorem readTail?_of_no_point {text : Text} (starts : StartsNot (fun c => c = '.') text) :
    readTail? text = (readExponent? text).map fun (exponent, rest) => (exponent.map .power, rest) := by
  unfold readTail?
  split
  · exact absurd rfl (starts '.' rfl)
  · cases readExponent? text <;> rfl

theorem readTail?_none {rest : Text} (ends : EndsNumber rest) :
    readTail? rest = some (none, rest) := by
  have no_exponent : readExponent? rest = some (none, rest) :=
    readExponent?_none (ends.imp fun _ letter => Or.inr (Or.inr letter))
  rw [readTail?_of_no_point (ends.imp fun _ point => Or.inr (Or.inl point)), no_exponent]
  rfl

/-- The letter of an exponent does not go on with digits or a fraction. -/
theorem exponent_startsNot (belongs : Char → Prop) (small : ¬ belongs 'e') (capital : ¬ belongs 'E')
    (exponent : Exponent) (rest : Text) : StartsNot belongs (exponent.toText ++ rest) := by
  obtain ⟨isCapital, sign, digits⟩ := exponent
  cases isCapital with
  | false => exact startsNot_cons small
  | true => exact startsNot_cons capital

theorem readTail?_toText (tail : Tail) {rest : Text} (ends : EndsNumber rest) :
    readTail? (tail.toText ++ rest) = some (some tail, rest) := by
  cases tail with
  | power exponent =>
      have no_point := exponent_startsNot (fun c => c = '.') (by decide) (by decide) exponent rest
      rw [Tail.toText, readTail?_of_no_point no_point, readExponent?_toText exponent ends.noDigit]
      rfl
  | fraction digits exponent =>
      cases exponent with
      | none =>
          have read := readDigits?_toText digits ends.noDigit
          have no_exponent : readExponent? rest = some (none, rest) :=
            readExponent?_none (ends.imp fun _ letter => Or.inr (Or.inr letter))
          simp [Tail.toText, readTail?, read, no_exponent]
      | some exponent =>
          have no_digit := exponent_startsNot (fun c => c.isDigit = true) (by decide) (by decide)
            exponent rest
          have read := readDigits?_toText digits no_digit
          have read_exponent := readExponent?_toText exponent ends.noDigit
          simp [Tail.toText, readTail?, read, read_exponent]

theorem tail_startsNot_digit (tail : Tail) (rest : Text) :
    StartsNot (fun c => c.isDigit = true) (tail.toText ++ rest) := by
  cases tail with
  | fraction digits exponent => exact startsNot_cons (by decide)
  | power exponent => exact exponent_startsNot _ (by decide) (by decide) exponent rest

/-!
A whole part is written without leading zeros, so that the reader does not refuse it.
-/

theorem eq_zero_of_head? {n : Nat} (zero : (Numeral.ofNat n).head? = some '0') : n = 0 := by
  unfold Numeral.ofNat at zero
  induction n using Nat.strongRecOn with
  | _ n ih =>
      by_cases small : n < 10
      · rw [Nat.toDigits_of_lt_base small] at zero
        have only : ∀ n, n < 10 → Nat.digitChar n = '0' → n = 0 := by decide
        exact only n small (Option.some.inj zero)
      · have long : 10 ≤ n := Nat.le_of_not_lt small
        rw [Nat.toDigits_of_base_le (by decide) long,
          List.head?_append_of_ne_nil _ Nat.toDigits_ne_nil] at zero
        have front : n / 10 = 0 := ih (n / 10) (by omega) zero
        omega

theorem whole_accepted (n : Nat) :
    ¬ (Numeral.ofNat n = [] ∨
      ((Numeral.ofNat n).head? = some '0' ∧ (Numeral.ofNat n).length ≠ 1)) := by
  rintro (empty | ⟨zero, long⟩)
  · exact Numeral.ofNat_ne_nil n empty
  · rw [eq_zero_of_head? zero] at long
    exact long rfl

/-- The sign that a number may have in front. -/
def minus (negative : Bool) : Text := if negative then ['-'] else []

/-- What is read behind a whole part decides what the number is. -/
def numberOf (negative : Bool) (whole : Nat) : Option Tail → Json
  | none => .int (if negative then -whole else whole)
  | some tail => .decimal ⟨negative, whole, tail⟩

theorem readNumber?_append (negative : Bool) (whole : Nat) {tail : Option Tail} {text rest : Text}
    (starts : StartsNot (fun c => c.isDigit = true) text)
    (read : readTail? text = some (tail, rest)) :
    readNumber? (minus negative ++ Numeral.ofNat whole ++ text) =
      some (numberOf negative whole tail, rest) := by
  obtain ⟨taken, dropped⟩ :=
    span_digits (fun _ => Numeral.isDigit_of_mem_ofNat (n := whole)) starts
  have value := Numeral.value_ofNat whole
  cases negative with
  | true =>
      have shape : minus true ++ Numeral.ofNat whole ++ text =
          '-' :: (Numeral.ofNat whole ++ text) := rfl
      rw [shape]
      simp only [readNumber?, taken, dropped, if_neg (whole_accepted whole), read, value]
      cases tail <;> rfl
  | false =>
      have shape : minus false ++ Numeral.ofNat whole ++ text = Numeral.ofNat whole ++ text := rfl
      have unsigned : ∀ more, Numeral.ofNat whole ++ text ≠ '-' :: more :=
        digits_append_ne_cons (fun _ => Numeral.isDigit_of_mem_ofNat) (Numeral.ofNat_ne_nil whole)
          rfl text
      rw [shape]
      unfold readNumber?
      split
      next sign =>
        split at sign
        · next minus => exact absurd minus (unsigned _)
        · cases sign
          simp only [taken, dropped, if_neg (whole_accepted whole), read, value]
          cases tail <;> rfl

theorem readNumber?_ofInt (z : Int) {rest : Text} (ends : EndsNumber rest) :
    readNumber? (Numeral.ofInt z ++ rest) = some (.int z, rest) := by
  cases z with
  | ofNat n => exact readNumber?_append false n ends.noDigit (readTail?_none ends)
  | negSucc n =>
      exact readNumber?_append true (n + 1) ends.noDigit (readTail?_none ends)

theorem readNumber?_decimal (value : Decimal) {rest : Text} (ends : EndsNumber rest) :
    readNumber? (value.toText ++ rest) = some (.decimal value, rest) := by
  obtain ⟨negative, whole, tail⟩ := value
  have read := readNumber?_append negative whole (tail_startsNot_digit tail rest)
    (readTail?_toText tail ends)
  rw [← List.append_assoc] at read
  exact read

end Json

end FacetedSearch
