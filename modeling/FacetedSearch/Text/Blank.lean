/-
Module: FacetedSearch.Text.Blank
Purpose: The blanks around a number that a person or another program has written.
Imports: FacetedSearch.Text.Basic
Main exports: Text.isBlank, Text.trim
-/
import FacetedSearch.Text.Basic

namespace FacetedSearch

namespace Text

/-- The characters that the character database of Unicode calls white space. These are not the
characters that separate the words of a search. -/
def isBlank (c : Char) : Bool :=
  let code := c.toNat
  (0x9 ≤ code && code ≤ 0xd) || code == 0x20 || code == 0x85 || code == 0xa0 || code == 0x1680 ||
    (0x2000 ≤ code && code ≤ 0x200a) || code == 0x2028 || code == 0x2029 || code == 0x202f ||
    code == 0x205f || code == 0x3000

/-- A text without the characters of a class at its two ends. -/
def trim (blank : Char → Bool) (text : Text) : Text :=
  ((text.dropWhile blank).reverse.dropWhile blank).reverse

end Text

end FacetedSearch
