/-
Module: FacetedSearch.Text.WholeNumber
Purpose: Whole numbers as a person writes them into a setting or an option.
Imports: FacetedSearch.Text.Blank, FacetedSearch.Text.Numeral
Main exports: WholeNumber.Fault, WholeNumber.longest, WholeNumber.read
-/
import FacetedSearch.Text.Blank
import FacetedSearch.Text.Numeral

namespace FacetedSearch

namespace WholeNumber

/-!
### What may decorate a number

Around a number there may be blanks, before it a sign, and behind it a point with zeros.  Leading
zeros count for nothing, nor do underscores among them, and a minus sign may stand behind leading
zeros as well.  Between the digits that count, an underscore may stand on its own.  What is left
without all this is the number, in digits that begin with a zero only if it is zero.
-/

/-- Why a text is not taken as a whole number. -/
inductive Fault where
  | malformed
  | tooLong
deriving Repr, DecidableEq

/-- A number with more digits than this is not read. -/
def longest : Nat := 4300

/-- A number behind leading zeros; the last of them is kept at the end and before a point, and
there it must not be an underscore. -/
def afterZeros (zeroLast : Bool) : Text → Option Text
  | [] => if zeroLast then some ['0'] else none
  | '0' :: rest => afterZeros true rest
  | '_' :: rest => afterZeros false rest
  | '.' :: rest => if zeroLast then some ('0' :: '.' :: rest) else none
  | c :: rest => if c = '-' ∨ c.isDigit then some (c :: rest) else none

/-- A number, which begins with a digit, without its leading zeros. -/
def significant? : Text → Option Text
  | [] => none
  | '0' :: rest => afterZeros true rest
  | c :: rest => if c.isDigit then some (c :: rest) else none

/-- A number without a point and the zeros behind it; there must be one zero at least. -/
def dropFraction (text : Text) : Text :=
  match text.cut? '.' with
  | some (whole, fraction) =>
      if fraction ≠ [] ∧ fraction.all (· == '0') then whole else text
  | none => text

/-- No underscore stands at the end or beside another. -/
def singleUnderscores : Text → Bool
  | [] => true
  | ['_'] => false
  | '_' :: '_' :: _ => false
  | _ :: rest => singleUnderscores rest

/-- A number without the underscores in it, if each of them stands on its own. -/
def dropUnderscores (text : Text) : Text :=
  if text.head? ≠ some '_' ∧ singleUnderscores text then text.filter (· != '_') else text

/-- A number without a sign before it, and without all that only decorates it. -/
def plain? (text : Text) : Option Text :=
  (significant? text).map fun number => dropUnderscores (dropFraction number)

/-- A number without all that only decorates it but for a minus sign. -/
def signed? : Text → Option Text
  | '+' :: '-' :: _ => none
  | '+' :: rest => plain? rest
  | '-' :: rest => (plain? rest).map ('-' :: ·)
  | rest => plain? rest

/-!
### Reading
-/

/-- The number that plain digits stand for. -/
def readNat (digits : Text) : Except Fault Nat :=
  if !Numeral.isDigits digits then .error .malformed
  else if longest < digits.length then .error .tooLong
  else if digits.head? = some '0' ∧ digits ≠ ['0'] then .error .malformed
  else .ok (Numeral.value digits)

/-- The number that plain digits stand for, perhaps behind a minus sign. -/
def readInt : Text → Except Fault Int
  | '-' :: digits => (readNat digits).map fun n => -(n : Int)
  | digits => (readNat digits).map fun n => (n : Int)

/-- The whole number that a text gives. -/
def read (text : Text) : Except Fault Int :=
  match signed? (text.trim Text.isBlank) with
  | none => .error .malformed
  | some number => readInt number

end WholeNumber

end FacetedSearch
