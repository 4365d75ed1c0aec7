/-
Module: FacetedSearch.Json.Number
Purpose: The rational number that a JSON number stands for.
Imports: FacetedSearch.Json.Basic
Main exports: Json.Decimal.value, Json.number?
-/
import FacetedSearch.Json.Basic

namespace FacetedSearch

namespace Json

/-- Digits after a number that is already read. -/
def Digits.appendTo (start : Nat) (digits : Digits) : Nat :=
  (digits.first :: digits.more).foldl (fun n digit => 10 * n + digit.val) start

/-- How many digits there are. -/
def Digits.length (digits : Digits) : Nat := digits.more.length + 1

/-- The power of ten that an exponent stands for. -/
def Exponent.power (exponent : Exponent) : Int :=
  let size : Int := exponent.digits.appendTo 0
  if exponent.sign = some true then -size else size

/-- A whole number times a power of ten. -/
def scaled (n : Int) (power : Int) : Rat :=
  let size := Nat.pow 10 power.natAbs
  if 0 ≤ power then mkRat (n * size) 1 else mkRat n size

/-- The number that a number with a fraction or an exponent stands for. -/
def Decimal.value (decimal : Decimal) : Rat :=
  let size : Rat := match decimal.tail with
    | .fraction digits exponent =>
        scaled (digits.appendTo decimal.whole)
          ((exponent.map (·.power)).getD 0 - digits.length)
    | .power exponent => scaled decimal.whole exponent.power
  if decimal.negative then -size else size

/-- The number that a value stands for, if it is one. -/
def number? : Json → Option Rat
  | .int number => some number
  | .decimal number => some number.value
  | _ => none

end Json

end FacetedSearch
