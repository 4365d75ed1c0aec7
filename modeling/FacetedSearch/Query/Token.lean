/-
Module: FacetedSearch.Query.Token
Purpose: The tokens of a search text: its runs without their surrounding quote marks.
Imports: FacetedSearch.Query.Run, FacetedSearch.Query.Term
Main exports: Query.unquote, Query.tokenOfRun?, Query.tokens
-/
import FacetedSearch.Query.Run
import FacetedSearch.Query.Term

namespace FacetedSearch

namespace Query

open Text

/-!
### Tokens

A run loses one pair of surrounding quote marks.  When what is left names a field, the value of
the field loses one pair too, so that `tag:"foo bar"` is the token `tag:foo bar`.  A run that is
nothing but a pair of quote marks gives no token.
-/

/-- A text without its first and last character when both are the same quote mark. -/
def unquote : Text → Text
  | first :: second :: rest =>
      if isQuote first && (second :: rest).getLast? == some first then (second :: rest).dropLast
      else first :: second :: rest
  | text => text

/-- A text between two equal quote marks loses exactly these. -/
@[simp] theorem unquote_quoted {mark : Char} (quote : isQuote mark = true) (body : Text) :
    unquote (mark :: body ++ [mark]) = body := by
  cases body with
  | nil => simp [unquote, quote]
  | cons c rest =>
      have last : (c :: (rest ++ [mark])).getLast? = some mark := by
        rw [← List.cons_append, List.getLast?_append]; rfl
      have drop : (c :: (rest ++ [mark])).dropLast = c :: rest := by
        rw [← List.cons_append, List.dropLast_concat]
      simp [unquote, quote, last, drop]

/-- The term with its value out of quotes; free text stays as it is. -/
def Term.unquoteValue : Term → Term
  | .tagged field value => .tagged field (unquote value)
  | .free text => .free text

/-- The token of a run, if quote marks are not all there is to it. -/
def tokenOfRun? (run : Text) : Option Text :=
  let word := unquote run
  if word = [] then none else some (Term.ofText word).unquoteValue.toText

theorem tokenOfRun?_eq_some_iff {run token : Text} :
    tokenOfRun? run = some token ↔
      unquote run ≠ [] ∧ (Term.ofText (unquote run)).unquoteValue.toText = token := by
  simp [tokenOfRun?]

theorem tokenOfRun?_eq_none_iff {run : Text} : tokenOfRun? run = none ↔ unquote run = [] := by
  simp [tokenOfRun?]

/-- The tokens of a search text in order. -/
def tokens (text : Text) : List Text := (runs text).filterMap tokenOfRun?

end Query

end FacetedSearch
