/-
Module: FacetedSearch.Web.Form
Purpose: The names and values that the query of an address carries.
Imports: FacetedSearch.Text.Hex, FacetedSearch.Text.Utf8
Main exports: Form.bytes, Form.component, Form.pairs, Form.last?, Form.escapeAddress
-/
import FacetedSearch.Text.Hex
import FacetedSearch.Text.Utf8

namespace FacetedSearch

namespace Form

/-!
### Reading

Pairs are kept apart by `&`, and a name from its value by the first `=`.  In both a plus sign is a
blank and `%` with two hexadecimal digits is a byte; a `%` without two such digits is itself.  The
bytes are then read as UTF-8.
-/

/-- The bytes that a text with escapes stands for. -/
def bytes : Text → List Nat
  | [] => []
  | '%' :: high :: low :: rest =>
      match Text.hexValue? high, Text.hexValue? low with
      | some high, some low => (16 * high + low) :: bytes rest
      | _, _ => '%'.toNat :: bytes (high :: low :: rest)
  | c :: rest => Utf8.encodeChar c ++ bytes rest

/-- A plus sign is a blank. -/
def blankForPlus (c : Char) : Char := if c = '+' then ' ' else c

/-- A name or a value. -/
def component (text : Text) : Text := Utf8.decode (bytes (text.map blankForPlus))

/-- A name and its value; without `=` the value is empty. -/
def pair (part : Text) : Text × Text :=
  match part.cut? '=' with
  | some (name, value) => (component name, component value)
  | none => (component part, [])

/-- The pairs of a query in order; empty parts count for nothing. -/
def pairs (query : Text) : List (Text × Text) :=
  ((query.splitAtAll '&').filter (· ≠ [])).map pair

/-- The value of the last pair of a name. -/
def last? (query name : Text) : Option Text :=
  ((pairs query).reverse.find? (·.1 == name)).map (·.2)

/-!
### Writing
-/

/-- A byte as an escape. -/
def escapeByte (byte : Nat) : Text :=
  '%' :: (Text.hex 2 byte).map Char.toUpper

/-- The characters that stand for themselves in an address as a whole. -/
def standsInAddress (c : Char) : Bool :=
  c.isAlphanum || "_.-~:/%#?=@[]!$&'()*+,;".toList.contains c

/-- An address in which every character that cannot stand there is escaped. -/
def escapeAddress (address : Text) : Text :=
  address.flatMap fun c =>
    if standsInAddress c then [c] else (Utf8.encodeChar c).flatMap escapeByte

end Form

end FacetedSearch
