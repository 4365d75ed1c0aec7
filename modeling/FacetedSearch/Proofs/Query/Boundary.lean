/-
Module: FacetedSearch.Proofs.Query.Boundary
Purpose: What the scan of a search text does when it stands between pieces. Every text is empty,
  starts with a character that is left out, or starts with a piece; the scan is described once for
  each of these cases, and `boundary_induction` turns them into an induction over texts. No later
  proof opens the scan.
Imports: FacetedSearch.Query.Run
Main exports: Query.isPlain, Query.LeftOut, Query.Stops, Query.boundary_induction,
  Query.runs_leftOut, Query.runs_append, Query.runs_of_isRun, Query.flatten_runs_piece
-/
import Mathlib
import FacetedSearch.Query.Run

namespace FacetedSearch

namespace Query

open Text

/-- The characters that only ever stand for themselves. -/
def isPlain (c : Char) : Bool := !isSpace c && !isQuote c

theorem isPlain_iff {c : Char} : isPlain c = true ↔ isSpace c = false ∧ isQuote c = false := by
  simp [isPlain]

/-- A character starts no piece in front of `later`: it is white space, or a quote mark that does
not occur again. -/
def LeftOut (c : Char) (later : Text) : Prop :=
  isSpace c = true ∨ isQuote c = true ∧ c ∉ later

theorem LeftOut.not_mem {c : Char} {later : Text} (out : LeftOut c later)
    (quote : isQuote c = true) : c ∉ later := by
  rcases out with space | ⟨_, missing⟩
  · rw [isSpace_eq_false_of_isQuote quote] at space
    cases space
  · exact missing

/-- A run that ends in front of `later` cannot be made longer. -/
def Stops (later : Text) : Prop :=
  ∀ c rest, later = c :: rest → LeftOut c rest

theorem stops_nil : Stops [] := by
  intro c rest front
  cases front

theorem stops_cons {c : Char} {rest : Text} (h : LeftOut c rest) : Stops (c :: rest) := by
  intro d later same
  cases same
  exact h

/-!
### The three kinds of front

A piece cannot be mistaken for a character that is left out: a plain character is neither white
space nor a quote mark, and the quote mark of a span occurs again at the end of the span.
-/

theorem not_leftOut_of_piece {piece rest later : Text} {c : Char} (h : Piece piece)
    (front : piece ++ rest = c :: later) : ¬ LeftOut c later := by
  intro out
  cases h with
  | plain not_space not_quote =>
      cases front
      rcases out with space | ⟨quote, _⟩
      · rw [space] at not_space
        cases not_space
      · rw [quote] at not_quote
        cases not_quote
  | @span mark body quote closed =>
      cases front
      apply out.not_mem quote
      simp

theorem piece_ne_nil {piece : Text} (h : Piece piece) : piece ≠ [] := by
  cases h <;> simp

/-- Between pieces a text is at its end, or a character is left out, or a piece starts. -/
theorem boundary_cases (text : Text) :
    text = [] ∨ (∃ c rest, text = c :: rest ∧ LeftOut c rest) ∨
      ∃ piece rest, text = piece ++ rest ∧ Piece piece := by
  cases text with
  | nil => exact Or.inl rfl
  | cons c rest =>
      right
      by_cases space : isSpace c = true
      · exact Or.inl ⟨c, rest, rfl, Or.inl space⟩
      · by_cases quote : isQuote c = true
        · by_cases again : c ∈ rest
          · -- the span ends at the first mark behind the one that opens it
            obtain ⟨body, later, split, closed⟩ := List.eq_append_cons_of_mem again
            right
            refine ⟨c :: body ++ [c], later, ?_, .span quote closed⟩
            rw [split]
            simp
          · exact Or.inl ⟨c, rest, rfl, Or.inr ⟨quote, again⟩⟩
        · right
          refine ⟨[c], rest, rfl, ?_⟩
          apply Piece.plain
          · simpa using space
          · simpa using quote

/-- Induction along the places where the scan stands between pieces. -/
theorem boundary_induction {motive : Text → Prop} (nil : motive [])
    (skip : ∀ c rest, LeftOut c rest → motive rest → motive (c :: rest))
    (piece : ∀ piece rest, Piece piece → motive rest → motive (piece ++ rest)) (text : Text) :
    motive text := by
  rcases boundary_cases text with rfl | ⟨c, rest, rfl, out⟩ | ⟨front, rest, rfl, h⟩
  · exact nil
  · exact skip c rest out (boundary_induction nil skip piece rest)
  · have shorter : rest.length < (front ++ rest).length := by
      have := List.length_pos_iff.2 (piece_ne_nil h)
      rw [List.length_append]
      omega
    exact piece front rest h (boundary_induction nil skip piece rest)
termination_by text.length

/-!
### Pieces and runs
-/

theorem pieces_of_piece {piece : Text} (h : Piece piece) : Pieces piece := by
  have single : Pieces (piece ++ []) := .cons h .nil
  rwa [List.append_nil] at single

theorem pieces_append {front back : Text} (first : Pieces front) (second : Pieces back) :
    Pieces (front ++ back) := by
  induction first with
  | nil => exact second
  | cons piece _ ih =>
      rw [List.append_assoc]
      exact .cons piece ih

theorem pieces_of_plain {word : Text} (plain : word.all isPlain = true) : Pieces word := by
  induction word with
  | nil => exact .nil
  | cons c word ih =>
      rw [List.all_cons, Bool.and_eq_true] at plain
      obtain ⟨not_space, not_quote⟩ := isPlain_iff.1 plain.1
      exact .cons (.plain not_space not_quote) (ih plain.2)

theorem isRun_of_piece {piece : Text} (h : Piece piece) : IsRun piece :=
  ⟨pieces_of_piece h, piece_ne_nil h⟩

theorem isRun_append {front run : Text} (pieces : Pieces front) (isRun : IsRun run) :
    IsRun (front ++ run) := by
  constructor
  · exact pieces_append pieces isRun.1
  · intro empty
    apply isRun.2
    exact (List.append_eq_nil_iff.1 empty).2

/-!
### The scan at each of them
-/

theorem scan_leftOut {c : Char} {rest : Text} (out : LeftOut c rest) :
    scan .between (c :: rest) = (scan .between rest).skip := by
  rcases out with space | ⟨quote, missing⟩
  · have not_quote : ¬ isQuote c = true := by
      intro quote
      rw [isSpace_eq_false_of_isQuote quote] at space
      cases space
    simp [scan, space, not_quote]
  · simp [scan, quote, missing]

/-- Inside a span everything up to the closing mark is kept. -/
theorem scan_inside {mark : Char} {body : Text} (closed : mark ∉ body) (rest : Text) :
    scan (.inside mark) (body ++ mark :: rest) =
      (body ++ mark :: (scan .between rest).1, (scan .between rest).2) := by
  induction body with
  | nil => simp [scan, Cut.keep]
  | cons c body ih =>
      rw [List.mem_cons, not_or] at closed
      have goes_on : c ≠ mark := Ne.symm closed.1
      simp [scan, Cut.keep, goes_on, ih closed.2]

theorem scan_piece {piece : Text} (h : Piece piece) (rest : Text) :
    scan .between (piece ++ rest) = (piece ++ (scan .between rest).1, (scan .between rest).2) := by
  cases h with
  | plain not_space not_quote => simp [scan, Cut.keep, not_space, not_quote]
  | @span mark body quote closed =>
      have spanned : mark :: body ++ [mark] ++ rest = mark :: (body ++ mark :: rest) := by simp
      have again : mark ∈ body ++ mark :: rest := by simp
      rw [spanned]
      simp [scan, Cut.keep, quote, scan_inside closed rest]

theorem scan_pieces {run : Text} (h : Pieces run) (rest : Text) :
    scan .between (run ++ rest) = (run ++ (scan .between rest).1, (scan .between rest).2) := by
  induction h with
  | nil => rfl
  | cons piece _ ih => rw [List.append_assoc, scan_piece piece, ih, List.append_assoc]

theorem scan_stops {later : Text} (stops : Stops later) : (scan .between later).1 = [] := by
  cases later with
  | nil => rfl
  | cons c rest =>
      rw [scan_leftOut (stops c rest rfl)]
      rfl

/-!
### The runs
-/

theorem runs_leftOut {c : Char} {rest : Text} (out : LeftOut c rest) :
    runs (c :: rest) = runs rest := by
  unfold runs
  rw [scan_leftOut out]
  rfl

/-- A run that cannot be made longer is the first run of its text. -/
theorem runs_append {run later : Text} (h : IsRun run) (stops : Stops later) :
    runs (run ++ later) = run :: runs later := by
  have first : (scan .between later).1 = [] := scan_stops stops
  unfold runs
  rw [scan_pieces h.1, first]
  simp [Cut.toList, first, h.2]

/-- A run by itself is scanned whole. -/
theorem runs_of_isRun {run : Text} (h : IsRun run) : runs run = [run] := by
  have alone := runs_append h stops_nil
  rwa [List.append_nil] at alone

/-- A piece stays in the runs as it is, though it may be joined to the run behind it. -/
theorem flatten_runs_piece {piece : Text} (h : Piece piece) (rest : Text) :
    (runs (piece ++ rest)).flatten = piece ++ (runs rest).flatten := by
  unfold runs
  rw [scan_piece h]
  by_cases first : (scan .between rest).1 = []
  · simp [Cut.toList, first, piece_ne_nil h]
  · simp [Cut.toList, first]

end Query

end FacetedSearch
