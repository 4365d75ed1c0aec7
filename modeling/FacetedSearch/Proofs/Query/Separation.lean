/-
Module: FacetedSearch.Proofs.Query.Separation
Purpose: Where one search text may be put behind another. The scan looks ahead for closing quote
  marks, so what follows may change the runs of a text; it does not if it closes none of the marks
  that the scan has skipped and does not lengthen the last run. A character between two texts then
  only keeps them apart, be it white space or a quote mark that closes nothing.
Imports: FacetedSearch.Proofs.Query.Layout, FacetedSearch.Query.Token
Main exports: Query.Skips, Query.scan_append, Query.Separates, Query.tokens_separated
-/
import FacetedSearch.Proofs.Query.Layout
import FacetedSearch.Query.Token

namespace FacetedSearch

namespace Query

open Text

/-!
### Skipped marks

The scan of a text skips the quote marks that stand in the gaps of the text's layout.
-/

/-- The scan of a text skips this quote mark. -/
def Skips (text : Text) (mark : Char) : Prop :=
  isQuote mark = true ∧
    ∃ layout : Layout, layout.Fits text ∧ ∃ later, (mark, later) ∈ layout.skipped

theorem Layout.skipped_skip (layout : Layout) (c : Char) :
    (layout.skip c).skipped = (c, layout.toText) :: layout.skipped := by
  cases layout with
  | last gap => simp [skip, skipped, gapSkips, toText]
  | cons gap run rest => rfl

theorem Layout.skipped_glue (layout : Layout) (piece : Text) :
    (layout.glue piece).skipped = layout.skipped := by
  cases layout with
  | last gap => rfl
  | cons gap run rest => cases gap <;> rfl

theorem skips_first {c : Char} {rest : Text} (out : LeftOut c rest) (quote : isQuote c = true) :
    Skips (c :: rest) c := by
  obtain ⟨layout, fits⟩ := exists_fits rest
  refine ⟨quote, layout.skip c, fits.skip out, layout.toText, ?_⟩
  rw [Layout.skipped_skip]
  exact List.mem_cons_self

theorem Skips.cons {c mark : Char} {rest : Text} (skips : Skips rest mark)
    (out : LeftOut c rest) : Skips (c :: rest) mark := by
  obtain ⟨quote, layout, fits, later, mem⟩ := skips
  refine ⟨quote, layout.skip c, fits.skip out, later, ?_⟩
  rw [Layout.skipped_skip]
  exact List.mem_cons_of_mem _ mem

theorem Skips.piece {piece rest : Text} {mark : Char} (skips : Skips rest mark)
    (h : Piece piece) : Skips (piece ++ rest) mark := by
  obtain ⟨quote, layout, fits, later, mem⟩ := skips
  refine ⟨quote, layout.glue piece, fits.glue h, later, ?_⟩
  rw [Layout.skipped_glue]
  exact mem

theorem Skips.mem {text : Text} {mark : Char} (skips : Skips text mark) : mark ∈ text := by
  obtain ⟨_, layout, fits, later, mem⟩ := skips
  rw [← fits.toText_eq]
  exact (Layout.mem_skipped mem).subset List.mem_cons_self

/-!
### A text behind another

The scan of the first text is not disturbed: a mark that it skips is still skipped, as it is not
closed behind either, and pieces are taken as before.
-/

theorem Cut.toList_append (first : Text) (more later : List Text) :
    Cut.toList (first, more ++ later) = Cut.toList (first, more) ++ later := by
  unfold Cut.toList
  split <;> rfl

theorem LeftOut.append {c : Char} {rest : Text} (out : LeftOut c rest) {tail : Text}
    (apart : isQuote c = true → c ∉ tail) : LeftOut c (rest ++ tail) := by
  rcases out with space | ⟨quote, missing⟩
  · exact Or.inl space
  · refine Or.inr ⟨quote, ?_⟩
    rw [List.mem_append, not_or]
    exact ⟨missing, apart quote⟩

theorem scan_append {tail : Text} (stops : Stops tail) (text : Text)
    (apart : ∀ mark, Skips text mark → mark ∉ tail) :
    scan .between (text ++ tail) =
      ((scan .between text).1, (scan .between text).2 ++ runs tail) := by
  induction text using boundary_induction with
  | nil =>
      have first : (scan .between tail).1 = [] := scan_stops stops
      apply Prod.ext
      · exact first
      · simp [scan, runs, Cut.toList, first]
  | skip c rest out ih =>
      have still_out : LeftOut c (rest ++ tail) :=
        out.append fun quote => apart c (skips_first out quote)
      have rest_apart : ∀ mark, Skips rest mark → mark ∉ tail :=
        fun mark skips => apart mark (skips.cons out)
      rw [List.cons_append, scan_leftOut still_out, scan_leftOut out, ih rest_apart]
      unfold Cut.skip
      rw [Cut.toList_append]
  | piece piece rest h ih =>
      have rest_apart : ∀ mark, Skips rest mark → mark ∉ tail :=
        fun mark skips => apart mark (skips.piece h)
      rw [List.append_assoc, scan_piece h, scan_piece h, ih rest_apart]

theorem runs_append_apart {tail : Text} (stops : Stops tail) (text : Text)
    (apart : ∀ mark, Skips text mark → mark ∉ tail) :
    runs (text ++ tail) = runs text ++ runs tail := by
  unfold runs
  rw [scan_append stops text apart]
  exact Cut.toList_append _ _ _

/-- A character that keeps two texts apart: white space, or a quote mark that closes none of the
first text and opens none of the second. -/
def Separates (c : Char) (first second : Text) : Prop :=
  isSpace c = true ∨ isQuote c = true ∧ c ∉ second ∧ ¬ Skips first c

theorem runs_separated {first second : Text} {c : Char}
    (apart : ∀ mark, Skips first mark → mark ∉ second) (separates : Separates c first second) :
    runs (first ++ c :: second) = runs first ++ runs second := by
  have out : LeftOut c second := by
    rcases separates with space | ⟨quote, missing, _⟩
    · exact Or.inl space
    · exact Or.inr ⟨quote, missing⟩
  have apart_tail : ∀ mark, Skips first mark → mark ∉ c :: second := by
    intro mark skips
    rw [List.mem_cons, not_or]
    refine ⟨?_, apart mark skips⟩
    rintro rfl
    rcases separates with space | ⟨_, _, unskipped⟩
    · rw [isSpace_eq_false_of_isQuote skips.1] at space
      cases space
    · exact unskipped skips
  rw [runs_append_apart (stops_cons out) first apart_tail, runs_leftOut out]

theorem tokens_separated {first second : Text} {c : Char}
    (apart : ∀ mark, Skips first mark → mark ∉ second) (separates : Separates c first second) :
    tokens (first ++ c :: second) = tokens first ++ tokens second := by
  unfold tokens
  rw [runs_separated apart separates, List.filterMap_append]

end Query

end FacetedSearch
