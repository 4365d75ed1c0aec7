/-
Module: FacetedSearch.Query.Run
Purpose: Cutting a search text into runs of words and quoted spans.
Imports: FacetedSearch.Text.Basic
Main exports: Query.Scan, Query.scan, Query.runs, Query.Piece, Query.IsRun
-/
import FacetedSearch.Text.Basic

namespace FacetedSearch

namespace Query

open Text

/-!
### Runs

A run is a stretch of pieces with nothing between them: single characters that are neither white
space nor quote marks, and whole quoted spans.  White space between pieces ends a run.  A quote
mark that is not closed later opens nothing; it ends the run as white space does and is left out.

The scan reads the text once from left to right.  Between pieces a quote mark looks ahead for its
partner; inside a span only the partner matters, so white space and the other quote mark are kept.
-/

/-- Where the scan stands: between pieces, or inside a span that a later `mark` closes. -/
inductive Scan where
  | between
  | inside (mark : Char)
deriving Repr, DecidableEq

/-- The run that a text starts with (empty when it starts with no piece), and the runs after it. -/
abbrev Cut := Text × List Text

/-- The next character belongs to the run under way. -/
def Cut.keep (c : Char) (cut : Cut) : Cut := (c :: cut.1, cut.2)

/-- All runs: the first counts when it is not empty. -/
def Cut.toList (cut : Cut) : List Text := if cut.1 = [] then cut.2 else cut.1 :: cut.2

/-- The next character is left out, so that no run is under way before it. -/
def Cut.skip (cut : Cut) : Cut := ([], cut.toList)

/-- One pass over the text from the place where the scan stands. -/
def scan : Scan → Text → Cut
  | _, [] => ([], [])
  | .inside mark, c :: rest =>
      (scan (if c = mark then .between else .inside mark) rest).keep c
  | .between, c :: rest =>
      if isQuote c then
        if c ∈ rest then (scan (.inside c) rest).keep c else (scan .between rest).skip
      else if isSpace c then (scan .between rest).skip
      else (scan .between rest).keep c

/-- The runs of a search text, quote marks included. -/
def runs (text : Text) : List Text := (scan .between text).toList

/-!
### Pieces

The vocabulary in which the runs are described without the scan.
-/

/-- A piece of a run: a plain character, or a span between two equal quote marks. -/
inductive Piece : Text → Prop where
  | plain {c : Char} (not_space : isSpace c = false) (not_quote : isQuote c = false) : Piece [c]
  | span {mark : Char} {body : Text} (quote : isQuote mark = true) (closed : mark ∉ body) :
      Piece (mark :: body ++ [mark])

/-- Pieces one after the other, with nothing between them. -/
inductive Pieces : Text → Prop where
  | nil : Pieces []
  | cons {piece rest : Text} : Piece piece → Pieces rest → Pieces (piece ++ rest)

/-- A run is made of one piece or more. -/
def IsRun (run : Text) : Prop := Pieces run ∧ run ≠ []

/-- No run is empty. -/
theorem scan_runs_ne_nil (state : Scan) (text : Text) : [] ∉ (scan state text).2 := by
  induction text generalizing state with
  | nil => simp [scan]
  | cons c rest ih =>
      have skip : ∀ s, [] ∉ ((scan s rest).skip).2 := by
        intro s
        simp only [Cut.skip, Cut.toList]
        split
        · exact ih s
        · next h => simpa [h, eq_comm] using ih s
      cases state with
      | inside mark => exact ih _
      | between =>
          unfold scan
          split
          · split
            · exact ih _
            · exact skip _
          · split
            · exact skip _
            · exact ih _

/-- No run is empty. -/
theorem ne_nil_of_mem_runs {text run : Text} (h : run ∈ runs text) : run ≠ [] := by
  rintro rfl
  unfold runs Cut.toList at h
  have := scan_runs_ne_nil .between text
  split at h
  · exact this h
  · next hne => rcases List.mem_cons.1 h with h | h
                · exact hne h.symm
                · exact this h

end Query

end FacetedSearch
