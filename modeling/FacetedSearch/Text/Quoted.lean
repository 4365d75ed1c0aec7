/-
Module: FacetedSearch.Text.Quoted
Purpose: Names inside messages, between quote marks and with unprintable characters escaped.
Imports: FacetedSearch.Text.Hex, FacetedSearch.Text.Printable
Main exports: Text.quotedName, Text.asciiName
-/
import FacetedSearch.Text.Hex
import FacetedSearch.Text.Printable

namespace FacetedSearch

namespace Text

/-!
### Quoted names

A name stands between apostrophes, or between double quote marks when it holds an apostrophe and
no double quote mark.  The mark itself and the backslash are escaped, and every character that is
not shown as itself is written by its number, with as few digits as two, four or eight.
-/

/-- A character by its number. -/
def numbered (c : Char) : Text :=
  if c.toNat < 0x100 then "\\x".toList ++ hex 2 c.toNat
  else if c.toNat < 0x10000 then "\\u".toList ++ hex 4 c.toNat
  else "\\U".toList ++ hex 8 c.toNat

/-- A character inside a name between two marks. -/
def shown (mark c : Char) : Text :=
  if c = mark ∨ c = '\\' then ['\\', c]
  else if c = '\n' then "\\n".toList
  else if c = '\r' then "\\r".toList
  else if c = '\t' then "\\t".toList
  else if isPrintable c then [c]
  else numbered c

/-- The mark that a name stands between. -/
def nameMark (name : Text) : Char := if '\'' ∈ name ∧ '"' ∉ name then '"' else '\''

/-- A name as messages show it. -/
def quotedName (name : Text) : Text :=
  nameMark name :: name.flatMap (shown (nameMark name)) ++ [nameMark name]

/-- A name as messages show it that hold nothing but ASCII. -/
def asciiName (name : Text) : Text :=
  (quotedName name).flatMap fun c => if c.toNat < 0x80 then [c] else numbered c

end Text

end FacetedSearch
