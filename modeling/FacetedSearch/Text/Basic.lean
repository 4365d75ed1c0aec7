/-
Module: FacetedSearch.Text.Basic
Purpose: Texts as lists of characters, and the two character classes of a search text.
Main exports: Text, Text.isSpace, Text.isQuote, Text.cut?, Text.splitAtAll
-/
namespace FacetedSearch

/-- A text is the list of its characters, so that lengths and cuts count characters. -/
abbrev Text := List Char

namespace Text

/-!
### Character classes of a search text

Words are kept apart by white space; spans are kept together by one of two quote marks.
The white space is a fixed set: the line and page breaks, the spaces of every width, and the
zero-width byte order mark.
-/

/-- The characters that separate words. -/
def spaces : List Char :=
  ['\t', '\n', '\x0b', '\x0c', '\r', ' ', '\u00a0', '\u1680',
   '\u2000', '\u2001', '\u2002', '\u2003', '\u2004', '\u2005', '\u2006', '\u2007',
   '\u2008', '\u2009', '\u200a', '\u2028', '\u2029', '\u202f', '\u205f', '\u3000', '\ufeff']

/-- White space separates words. -/
def isSpace (c : Char) : Bool := spaces.contains c

/-- Either quote mark opens a span that the same mark closes. -/
def isQuote (c : Char) : Bool := c == '"' || c == '\''

theorem isQuote_iff {c : Char} : isQuote c = true ↔ c = '"' ∨ c = '\'' := by
  simp only [isQuote, Bool.or_eq_true, beq_iff_eq]

/-- No quote mark is white space. -/
theorem isSpace_eq_false_of_isQuote {c : Char} (h : isQuote c = true) : isSpace c = false := by
  rcases isQuote_iff.1 h with rfl | rfl <;> decide

/-!
### Cutting at a character

A cut is at the first occurrence: the left side does not hold the character.
-/

/-- The two sides of the first `c`, when there is one. -/
def cut? (c : Char) : Text → Option (Text × Text)
  | [] => none
  | d :: rest =>
      if d = c then some ([], rest)
      else (cut? c rest).map fun sides => (d :: sides.1, sides.2)

/-- A cut finds the one reading of a text as a left side without `c`, `c`, and a right side. -/
theorem cut?_eq_some_iff {c : Char} {text left right : Text} :
    text.cut? c = some (left, right) ↔ text = left ++ c :: right ∧ c ∉ left := by
  induction text generalizing left with
  | nil => simp [cut?]
  | cons d rest ih =>
      unfold cut?
      by_cases h : d = c
      · subst h
        cases left <;> simp_all
      · cases left with
        | nil => simp [h]
        | cons e left =>
            simp only [h, if_false, Option.map_eq_some_iff, Prod.exists]
            grind

/-- A text cannot be cut exactly when the character is missing. -/
theorem cut?_eq_none_iff {c : Char} {text : Text} : text.cut? c = none ↔ c ∉ text := by
  induction text with
  | nil => simp [cut?]
  | cons d rest ih =>
      unfold cut?
      by_cases h : d = c
      · simp [h]
      · simp [h, ih, Ne.symm h]

/-- The parts of a text between the occurrences of `c`; one part more than there are of these. -/
def splitAtAll (c : Char) : Text → List Text
  | [] => [[]]
  | d :: rest =>
      if d = c then [] :: splitAtAll c rest
      else
        match splitAtAll c rest with
        | [] => [[d]]
        | part :: parts => (d :: part) :: parts

end Text

end FacetedSearch
