/-
Module: FacetedSearch.Text.LowerCase
Purpose: Lower-casing as far as Latin letters without marks are concerned.
Imports: FacetedSearch.Text.Basic
Main exports: Text.lowerChar, Text.lower
-/
import FacetedSearch.Text.Basic

namespace FacetedSearch

namespace Text

/-!
### Lower case

Words that are matched without regard to case are spelled with the letters a to z.  A character
can become such a letter in three ways: it is the capital of one, it is the Kelvin sign, which
becomes k, or it is the dotted capital I, which becomes i and a dot above on its own.  The lower
case of every other character holds no letter a to z, so it is left as it is.
-/

/-- The lower case of one character, as far as the letters a to z are concerned. -/
def lowerChar (c : Char) : Text :=
  if c = '\u212a' then ['k']
  else if c = '\u0130' then ['i', '\u0307']
  else [c.toLower]

/-- A text with every character in lower case. -/
def lower (text : Text) : Text := text.flatMap lowerChar

@[simp] theorem lower_append (left right : Text) : lower (left ++ right) = lower left ++ lower right := by
  simp [lower]

end Text

end FacetedSearch
