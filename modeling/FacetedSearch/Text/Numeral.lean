/-
Module: FacetedSearch.Text.Numeral
Purpose: Whole numbers in decimal digits, written and read.
Imports: FacetedSearch.Text.Basic
Main exports: Numeral.ofNat, Numeral.ofInt, Numeral.padded, Numeral.isDigits, Numeral.value, Numeral.int?
-/
import FacetedSearch.Text.Basic

namespace FacetedSearch

namespace Numeral

/-- A number in decimal digits, without leading zeros. -/
def ofNat (n : Nat) : Text := Nat.toDigits 10 n

/-- A whole number; a negative one has a minus sign. -/
def ofInt : Int → Text
  | .ofNat n => ofNat n
  | .negSucc n => '-' :: ofNat (n + 1)

/-- A number in at least `width` digits, filled up with leading zeros. -/
def padded (width n : Nat) : Text := (ofNat n).leftpad width '0'

/-- A text of one digit or more and nothing else. -/
def isDigits (text : Text) : Bool := !text.isEmpty && text.all Char.isDigit

/-- The number that a text of digits stands for; leading zeros count for nothing. -/
def value (digits : Text) : Nat := Nat.ofDigitChars 10 digits 0

/-- Digits after an optional sign. -/
def int? (text : Text) : Option Int :=
  match text with
  | '-' :: digits => if isDigits digits then some (-(value digits)) else none
  | '+' :: digits => if isDigits digits then some (value digits) else none
  | digits => if isDigits digits then some (value digits) else none

/-- A written number reads as itself. -/
@[simp] theorem value_ofNat (n : Nat) : value (ofNat n) = n := Nat.ofDigitChars_ten_toDigits

/-- A written number is digits only. -/
theorem isDigit_of_mem_ofNat {n : Nat} {c : Char} (h : c ∈ ofNat n) : c.isDigit = true :=
  Nat.isDigit_of_mem_toDigits (b := 10) (by decide) (by decide) h

/-- A written number has a digit. -/
theorem ofNat_ne_nil (n : Nat) : ofNat n ≠ [] := Nat.toDigits_ne_nil

/-- A written number is a text of digits. -/
@[simp] theorem isDigits_ofNat (n : Nat) : isDigits (ofNat n) = true := by
  simp only [isDigits, Bool.and_eq_true, Bool.not_eq_true', List.isEmpty_eq_false_iff, ne_eq,
    List.all_eq_true]
  exact ⟨ofNat_ne_nil n, fun c h => isDigit_of_mem_ofNat h⟩

/-- A written whole number reads as itself. -/
@[simp] theorem int?_ofInt (z : Int) : int? (ofInt z) = some z := by
  cases z with
  | ofNat n =>
      have digits := isDigits_ofNat n
      have first : ∀ rest, ofNat n ≠ '-' :: rest ∧ ofNat n ≠ '+' :: rest := by
        intro rest
        constructor <;> intro h <;>
          exact absurd (isDigit_of_mem_ofNat (n := n) (h ▸ List.mem_cons_self)) (by decide)
      unfold int? ofInt
      split
      · next rest h => exact absurd h (first rest).1
      · next rest h => exact absurd h (first rest).2
      · simp [digits]
  | negSucc n =>
      simp [int?, ofInt, Int.negSucc_eq]

end Numeral

end FacetedSearch
