/-
Module: FacetedSearch.Json.Basic
Purpose: JSON values whose objects keep the order of their members.
Imports: FacetedSearch.Text.Basic
Main exports: Json, Json.Decimal, Json.member, Json.get?, Json.ofNat, Json.strings, Json.ints
-/
import FacetedSearch.Text.Basic

namespace FacetedSearch

/-!
### Values

Whole numbers are numbers of any size.  A number with a fraction or an exponent is kept by its
digits, so that it is written as it was read.  The members of an object are a list: their order
counts, and a name may occur twice.
-/

/-- One decimal digit or more. -/
structure Json.Digits where
  first : Fin 10
  more : List (Fin 10)
deriving Repr, DecidableEq

/-- The exponent of a number as it is spelled: the letter, the sign if there is one, the digits. -/
structure Json.Exponent where
  capital : Bool
  sign : Option Bool
  digits : Json.Digits
deriving Repr, DecidableEq

/-- What follows the whole part of a number that is not a plain whole number. -/
inductive Json.Tail where
  | fraction (digits : Json.Digits) (exponent : Option Json.Exponent)
  | power (exponent : Json.Exponent)
deriving Repr, DecidableEq

/-- A number with a fraction or an exponent, by its digits. -/
structure Json.Decimal where
  negative : Bool
  whole : Nat
  tail : Json.Tail
deriving Repr, DecidableEq

/-- A JSON value. -/
inductive Json where
  | null
  | bool (value : Bool)
  | int (value : Int)
  | decimal (value : Json.Decimal)
  | str (text : Text)
  | arr (items : List Json)
  | obj (members : List (Text × Json))
deriving Repr

namespace Json

/-- A member of an object. -/
def member (name : String) (value : Json) : Text × Json := (name.toList, value)

/-- A text in the program, as a value. -/
def ofString (text : String) : Json := .str text.toList

/-- A count as a value. -/
def ofNat (n : Nat) : Json := .int n

/-- A list of texts as a value. -/
def strings (texts : List Text) : Json := .arr (texts.map .str)

/-- A text that may be missing; a missing one is null. -/
def ofText? : Option Text → Json
  | none => .null
  | some text => .str text

mutual

/-- The whole numbers anywhere inside a value. -/
def ints : Json → List Int
  | .int value => [value]
  | .arr items => intsOfItems items
  | .obj members => intsOfMembers members
  | .null | .bool _ | .decimal _ | .str _ => []

/-- The whole numbers inside items. -/
def intsOfItems : List Json → List Int
  | [] => []
  | item :: items => ints item ++ intsOfItems items

/-- The whole numbers inside the values of members. -/
def intsOfMembers : List (Text × Json) → List Int
  | [] => []
  | (_, value) :: members => ints value ++ intsOfMembers members

end

/-- The value of the last member of a name: a later member overrides an earlier one. -/
def get? (name : Text) : Json → Option Json
  | .obj members => (members.reverse.find? (·.1 == name)).map (·.2)
  | _ => none

end Json

end FacetedSearch
