/-
Module: FacetedSearch.Proofs.Query.Layout
Purpose: The runs of a search text as the runs of its one layout. A layout cuts a text into gaps
  and runs; it fits when the runs are made of pieces, the gaps of characters that start no piece,
  and no run can be made longer. Every text has exactly one layout that fits, and the scan returns
  the runs of it.
Imports: FacetedSearch.Proofs.Query.Boundary
Main exports: Query.Layout, Query.Layout.Fits, Query.Layout.Fits.runs_eq, Query.exists_fits,
  Query.runs_unique_layout
-/
import FacetedSearch.Proofs.Query.Boundary

namespace FacetedSearch

namespace Query

open Text

/-- Gaps and runs in turn, with a gap at either end. A gap may be empty. -/
inductive Layout where
  | last (gap : Text)
  | cons (gap run : Text) (rest : Layout)
deriving Repr, DecidableEq

/-- The characters of a gap, each with all the text behind it. -/
def gapSkips : Text → Text → List (Char × Text)
  | [], _ => []
  | c :: gap, behind => (c, gap ++ behind) :: gapSkips gap behind

namespace Layout

def toText : Layout → Text
  | .last gap => gap
  | .cons gap run rest => gap ++ (run ++ rest.toText)

def runs : Layout → List Text
  | .last _ => []
  | .cons _ run rest => run :: rest.runs

/-- The characters of all gaps in order, each with all the text behind it. -/
def skipped : Layout → List (Char × Text)
  | .last gap => gapSkips gap []
  | .cons gap run rest => gapSkips gap (run ++ rest.toText) ++ rest.skipped

/-- What stands behind each run. -/
def behindRuns : Layout → List Text
  | .last _ => []
  | .cons _ _ rest => rest.toText :: rest.behindRuns

/-- A layout of `text` in which runs consist of pieces, gaps of characters that start no piece, and
no run can be made longer. -/
structure Fits (layout : Layout) (text : Text) : Prop where
  toText_eq : layout.toText = text
  isRun : ∀ run ∈ layout.runs, IsRun run
  leftOut : ∀ skip ∈ layout.skipped, LeftOut skip.1 skip.2
  stops : ∀ behind ∈ layout.behindRuns, Stops behind

/-!
### A layout that fits has the runs of the scan

The scan passes over a gap, takes the run behind it whole and stands between pieces again.  The
induction is on the layout.
-/

theorem fits_cons {gap run : Text} {rest : Layout} {text : Text} :
    (cons gap run rest).Fits text ↔
      text = gap ++ (run ++ rest.toText) ∧ IsRun run ∧
        (∀ skip ∈ gapSkips gap (run ++ rest.toText), LeftOut skip.1 skip.2) ∧
        Stops rest.toText ∧ rest.Fits rest.toText := by
  constructor
  · intro fits
    obtain ⟨isRun, rest_isRun⟩ := List.forall_mem_cons.1 fits.isRun
    obtain ⟨out, rest_out⟩ := List.forall_mem_append.1 fits.leftOut
    obtain ⟨stops, rest_stops⟩ := List.forall_mem_cons.1 fits.stops
    exact ⟨fits.toText_eq.symm, isRun, out, stops, rfl, rest_isRun, rest_out, rest_stops⟩
  · rintro ⟨rfl, isRun, out, stops, rest_fits⟩
    constructor
    · rfl
    · exact List.forall_mem_cons.2 ⟨isRun, rest_fits.isRun⟩
    · exact List.forall_mem_append.2 ⟨out, rest_fits.leftOut⟩
    · exact List.forall_mem_cons.2 ⟨stops, rest_fits.stops⟩

theorem runs_gap {gap behind : Text}
    (out : ∀ skip ∈ gapSkips gap behind, LeftOut skip.1 skip.2) :
    Query.runs (gap ++ behind) = Query.runs behind := by
  induction gap with
  | nil => rfl
  | cons c gap ih =>
      obtain ⟨first, rest⟩ := List.forall_mem_cons.1 out
      rw [List.cons_append, runs_leftOut first]
      exact ih rest

theorem Fits.runs_eq {layout : Layout} {text : Text} (fits : layout.Fits text) :
    layout.runs = Query.runs text := by
  induction layout generalizing text with
  | last gap =>
      have empty : Query.runs (gap ++ []) = Query.runs [] := runs_gap fits.leftOut
      rw [← fits.toText_eq]
      rw [List.append_nil] at empty
      exact empty.symm
  | cons gap run rest ih =>
      obtain ⟨rfl, isRun, out, stops, rest_fits⟩ := fits_cons.1 fits
      rw [runs_gap out, runs_append isRun stops, ← ih rest_fits]
      rfl

/-!
### Some layout fits

A text read backwards from its end grows a layout that fits: a character that is left out joins the
first gap, a piece joins the first run if no gap keeps it away, and starts a new run otherwise.
-/

/-- The layout with a character more in front, in its first gap. -/
def skip (c : Char) : Layout → Layout
  | .last gap => .last (c :: gap)
  | .cons gap run rest => .cons (c :: gap) run rest

/-- The layout with a piece more in front, in its first run if that is where the text starts. -/
def glue (piece : Text) : Layout → Layout
  | .cons [] run rest => .cons [] (piece ++ run) rest
  | layout => .cons [] piece layout

theorem Fits.skip {layout : Layout} {text : Text} {c : Char} (fits : layout.Fits text)
    (out : LeftOut c text) : (layout.skip c).Fits (c :: text) := by
  cases layout with
  | last gap =>
      obtain rfl : gap = text := fits.toText_eq
      have first : LeftOut c (gap ++ []) := by
        rw [List.append_nil]
        exact out
      exact ⟨rfl, fits.isRun, List.forall_mem_cons.2 ⟨first, fits.leftOut⟩, fits.stops⟩
  | cons gap run rest =>
      obtain ⟨rfl, isRun, gap_out, stops, rest_fits⟩ := fits_cons.1 fits
      apply fits_cons.2
      exact ⟨rfl, isRun, List.forall_mem_cons.2 ⟨out, gap_out⟩, stops, rest_fits⟩

theorem Fits.glue {layout : Layout} {text piece : Text} (fits : layout.Fits text)
    (h : Piece piece) : (layout.glue piece).Fits (piece ++ text) := by
  obtain rfl := fits.toText_eq
  have no_gap (behind : Text) : ∀ skip ∈ gapSkips [] behind, LeftOut skip.1 skip.2 := by
    intro skip mem
    cases mem
  have apart (stops : Stops layout.toText) :
      (cons [] piece layout).Fits (piece ++ layout.toText) :=
    fits_cons.2 ⟨rfl, isRun_of_piece h, no_gap _, stops, fits⟩
  cases layout with
  | last gap =>
      apply apart
      cases gap with
      | nil => exact stops_nil
      | cons c gap =>
          have first := fits.leftOut _ (List.mem_cons_self ..)
          rw [List.append_nil] at first
          exact stops_cons first
  | cons gap run rest =>
      cases gap with
      | nil =>
          obtain ⟨_, isRun, _, stops, rest_fits⟩ := fits_cons.1 fits
          have glued : IsRun (piece ++ run) := isRun_append (pieces_of_piece h) isRun
          apply fits_cons.2
          refine ⟨?_, glued, no_gap _, stops, rest_fits⟩
          simp [toText]
      | cons c gap =>
          apply apart
          exact stops_cons (fits.leftOut _ (List.mem_cons_self ..))

end Layout

theorem exists_fits (text : Text) : ∃ layout : Layout, layout.Fits text := by
  induction text using boundary_induction with
  | nil =>
      refine ⟨.last [], rfl, ?_, ?_, ?_⟩
      all_goals
        intro _ h
        cases h
  | skip c rest out ih =>
      obtain ⟨layout, fits⟩ := ih
      exact ⟨layout.skip c, fits.skip out⟩
  | piece piece rest h ih =>
      obtain ⟨layout, fits⟩ := ih
      exact ⟨layout.glue piece, fits.glue h⟩

theorem isRun_of_mem_runs {text run : Text} (mem : run ∈ runs text) : IsRun run := by
  obtain ⟨layout, fits⟩ := exists_fits text
  rw [← fits.runs_eq] at mem
  exact fits.isRun run mem

/-!
### No other layout fits

A run cannot start inside a gap, so two layouts of one text that fit have the same first gap; the
runs are those of the scan in both.
-/

namespace Layout

theorem gapSkips_append (gap extra behind : Text) :
    gapSkips (gap ++ extra) behind = gapSkips gap (extra ++ behind) ++ gapSkips extra behind := by
  induction gap with
  | nil => rfl
  | cons c gap ih => simp [gapSkips, ih]

/-- Were the gap longer, the run behind the shorter one would start with a character left out. -/
theorem gap_extra_eq_nil {gap extra behind run later : Text} (isRun : IsRun run)
    (out : ∀ skip ∈ gapSkips (gap ++ extra) behind, LeftOut skip.1 skip.2)
    (same : extra ++ behind = run ++ later) : extra = [] := by
  cases extra with
  | nil => rfl
  | cons c extra =>
      exfalso
      have first : LeftOut c (extra ++ behind) := by
        apply out (c, extra ++ behind)
        rw [gapSkips_append]
        exact List.mem_append_right _ (List.mem_cons_self ..)
      obtain ⟨pieces, not_empty⟩ := isRun
      cases pieces with
      | nil => exact not_empty rfl
      | cons piece more =>
          rw [List.append_assoc] at same
          exact not_leftOut_of_piece piece same.symm first

theorem Fits.unique {first second : Layout} {text : Text} (left : first.Fits text)
    (right : second.Fits text) : first = second := by
  have same_runs : first.runs = second.runs := left.runs_eq.trans right.runs_eq.symm
  induction first generalizing second text with
  | last gap =>
      cases second with
      | last gap' => exact congrArg Layout.last (left.toText_eq.trans right.toText_eq.symm)
      | cons gap' run' rest' => cases same_runs
  | cons gap run rest ih =>
      cases second with
      | last gap' => cases same_runs
      | cons gap' run' rest' =>
          obtain ⟨rfl, same_rest⟩ := List.cons.inj same_runs
          obtain ⟨rfl, isRun, out, _, rest_fits⟩ := fits_cons.1 left
          obtain ⟨same, _, out', _, rest_fits'⟩ := fits_cons.1 right
          have same_gap : gap = gap' := by
            rcases List.append_eq_append_iff.1 same with ⟨extra, rfl, h⟩ | ⟨extra, rfl, h⟩
            · rw [gap_extra_eq_nil isRun out' h.symm, List.append_nil]
            · rw [gap_extra_eq_nil isRun out h.symm, List.append_nil]
          subst same_gap
          have same_behind : rest.toText = rest'.toText :=
            List.append_cancel_left (List.append_cancel_left same)
          rw [← same_behind] at rest_fits'
          rw [ih rest_fits rest_fits' same_rest]

/-!
### What is skipped

Each skipped character stands in the text behind those skipped before it.
-/

theorem mem_gapSkips {gap behind : Text} {skip : Char × Text} (h : skip ∈ gapSkips gap behind) :
    skip.1 :: skip.2 <:+ gap ++ behind := by
  induction gap with
  | nil => cases h
  | cons c gap ih =>
      rcases List.mem_cons.1 h with rfl | h
      · exact List.suffix_refl _
      · apply (ih h).trans
        exact List.suffix_cons c _

theorem suffix_of_mem_gapSkips {gap behind : Text} {skip : Char × Text}
    (h : skip ∈ gapSkips gap behind) : behind <:+ skip.2 := by
  induction gap with
  | nil => cases h
  | cons c gap ih =>
      rcases List.mem_cons.1 h with rfl | h
      · exact List.suffix_append gap behind
      · exact ih h

theorem mem_skipped {layout : Layout} {skip : Char × Text} (h : skip ∈ layout.skipped) :
    skip.1 :: skip.2 <:+ layout.toText := by
  induction layout with
  | last gap =>
      have := mem_gapSkips h
      rwa [List.append_nil] at this
  | cons gap run rest ih =>
      rcases List.mem_append.1 h with h | h
      · exact mem_gapSkips h
      · apply (ih h).trans
        exact ⟨gap ++ run, by simp [toText]⟩

theorem gapSkips_pairwise (gap behind : Text) :
    (gapSkips gap behind).Pairwise fun earlier skip => skip.1 ∈ earlier.2 := by
  induction gap with
  | nil => exact .nil
  | cons c gap ih =>
      refine .cons ?_ ih
      intro skip h
      exact (mem_gapSkips h).subset (List.mem_cons_self ..)

theorem skipped_pairwise (layout : Layout) :
    layout.skipped.Pairwise fun earlier skip => skip.1 ∈ earlier.2 := by
  induction layout with
  | last gap => exact gapSkips_pairwise gap []
  | cons gap run rest ih =>
      apply List.pairwise_append.2
      refine ⟨gapSkips_pairwise gap _, ih, ?_⟩
      intro earlier h skip later_skip
      have inside : skip.1 ∈ rest.toText :=
        (mem_skipped later_skip).subset (List.mem_cons_self ..)
      apply (suffix_of_mem_gapSkips h).subset
      exact List.mem_append_right _ inside

/-- A character that is never behind one of its own kind is there at most once. -/
theorem count_le_one_of_pairwise {c : Char} {skips : List (Char × Text)}
    (ordered : skips.Pairwise fun earlier skip => skip.1 ∈ earlier.2)
    (final : ∀ later, (c, later) ∈ skips → c ∉ later) : (skips.map Prod.fst).count c ≤ 1 := by
  induction skips with
  | nil => simp
  | cons skip skips ih =>
      obtain ⟨behind, ordered⟩ := List.pairwise_cons.1 ordered
      rw [List.map_cons, List.count_cons]
      by_cases same : skip.1 = c
      · have none_behind : c ∉ skips.map Prod.fst := by
          intro h
          obtain ⟨other, mem, rfl⟩ := List.mem_map.1 h
          obtain ⟨d, later⟩ := skip
          obtain rfl : d = other.1 := same
          apply final later (List.mem_cons_self ..)
          exact behind other mem
        rw [List.count_eq_zero_of_not_mem none_behind]
        simp [same]
      · have rest_count := ih ordered fun later h => final later (List.mem_cons_of_mem _ h)
        simpa [same] using rest_count

end Layout

/-- The runs of a text are the runs of its one layout that fits. Of each quote mark at most one is
left out of them, and that is the last one in the text. -/
theorem runs_unique_layout (text : Text) :
    ∃ layout : Layout, layout.Fits text ∧ layout.runs = runs text ∧
      (∀ other : Layout, other.Fits text → other = layout) ∧
      ∀ mark, isQuote mark = true →
        (layout.skipped.map Prod.fst).count mark ≤ 1 ∧
        ∀ later, (mark, later) ∈ layout.skipped →
          (∃ before, text = before ++ mark :: later) ∧ mark ∉ later := by
  obtain ⟨layout, fits⟩ := exists_fits text
  refine ⟨layout, fits, fits.runs_eq, ?_, ?_⟩
  · intro other other_fits
    exact other_fits.unique fits
  · intro mark quote
    have final : ∀ later, (mark, later) ∈ layout.skipped → mark ∉ later := by
      intro later h
      exact (fits.leftOut _ h).not_mem quote
    constructor
    · exact Layout.count_le_one_of_pairwise layout.skipped_pairwise final
    · intro later h
      obtain ⟨before, same⟩ := Layout.mem_skipped h
      refine ⟨⟨before, ?_⟩, final later h⟩
      rw [← fits.toText_eq, ← same]

end Query

end FacetedSearch
