/-
Module: FacetedSearch.Text.Hex
Purpose: Hexadecimal digits, written and read.
Imports: FacetedSearch.Text.Basic
Main exports: Text.hexValue?, Text.hex
-/
import FacetedSearch.Text.Basic

namespace FacetedSearch

namespace Text

/-- The value of a hexadecimal digit in either case. -/
def hexValue? (c : Char) : Option Nat :=
  if '0' ≤ c ∧ c ≤ '9' then some (c.toNat - '0'.toNat)
  else if 'a' ≤ c ∧ c ≤ 'f' then some (c.toNat - 'a'.toNat + 10)
  else if 'A' ≤ c ∧ c ≤ 'F' then some (c.toNat - 'A'.toNat + 10)
  else none

/-- A number in small hexadecimal digits, filled up with zeros. -/
def hex (width n : Nat) : Text := (Nat.toDigits 16 n).leftpad width '0'

/-- A digit is read as its value. -/
theorem hexValue?_digitChar {n : Nat} (h : n < 16) : hexValue? (Nat.digitChar n) = some n := by
  have all : ∀ n, n < 16 → hexValue? (Nat.digitChar n) = some n := by decide
  exact all n h

end Text

end FacetedSearch
