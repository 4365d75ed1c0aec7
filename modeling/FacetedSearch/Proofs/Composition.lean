/-
Module: FacetedSearch.Proofs.Composition
Purpose: Search texts compose. Two texts that are kept apart by a character give the tokens of the
  first and then those of the second; their parameters are merged, and the terms of each facet stand
  one after the other.
Imports: FacetedSearch.Proofs.Facet.Routing, FacetedSearch.Proofs.Parameters,
  FacetedSearch.Proofs.Query.Separation
Main exports: Backend.named_of_tokens_append, Facet.filter_of_tokens_append, search_separated
-/
import FacetedSearch.Proofs.Facet.Routing
import FacetedSearch.Proofs.Parameters
import FacetedSearch.Proofs.Query.Separation

namespace FacetedSearch

open Query

/-- The parameters of a text depend on its tokens alone, and group by group. -/
theorem Backend.named_of_tokens_append {whole first second : Text}
    (cut : tokens whole = tokens first ++ tokens second) :
    named whole = (named first).merge (named second) := by
  rw [named_eq_ofPairs, named_eq_ofPairs, named_eq_ofPairs, ← Grouping.ofPairs_append]
  simp only [terms, cut, List.map_append]

/-!
The routes of two lists of tokens, one after the other, are routes of both together.  They do not
depend on the facets that a run starts from, so the focus only counts once.
-/

/-- Tokens that can all be routed give facets under any focus. -/
theorem Facet.filter_of_routed {text : Text} {routes : List Route}
    (routed : List.Forall₂ Routed (tokens text) routes) (focus : Option Focus) :
    (filter text focus).result = .ok (routes.foldl Route.follow (start focus)) := by
  unfold filter
  rw [sort_of_routed routed]

theorem Facet.filter_of_tokens_append {whole first second : Text} {front back : Facets}
    (cut : tokens whole = tokens first ++ tokens second)
    (first_returned : (filter first none).result = .ok front)
    (second_returned : (filter second none).result = .ok back) (focus : Option Focus) :
    ∃ focused facets, (filter first focus).result = .ok focused ∧
      (filter whole focus).result = .ok facets ∧
        ∀ name, facets.terms name = focused.terms name ++ back.terms name := by
  obtain ⟨front_routes, front_routed⟩ := routed_of_sort_ok first_returned
  obtain ⟨back_routes, back_routed⟩ := routed_of_sort_ok second_returned
  have routed : List.Forall₂ Routed (tokens whole) (front_routes ++ back_routes) := by
    rw [cut]
    exact List.rel_append front_routed back_routed
  refine ⟨_, _, filter_of_routed front_routed focus, filter_of_routed routed focus, ?_⟩
  intro name
  rw [filter_of_routed back_routed none] at second_returned
  have no_focus : (start none).terms name = [] := by
    cases name <;> rfl
  rw [← Except.ok.inj second_returned]
  simp only [terms_foldl_follow, no_focus, List.filterMap_append, List.nil_append,
    List.append_assoc]

/-- Two search texts, neither of which has a duration that is too long, may be written one behind the
other: with white space between them, or with a quote mark that closes nothing in the first and
opens nothing in the second.  The second must hold no mark that the scan of the first skips. -/
theorem search_separated {first second : Text} {c : Char}
    (apart : ∀ mark, Skips first mark → mark ∉ second) (separates : Separates c first second) :
    tokens (first ++ c :: second) = tokens first ++ tokens second ∧
      Backend.named (first ++ c :: second) =
        (Backend.named first).merge (Backend.named second) ∧
      ∀ front back, (Facet.filter first none).result = .ok front →
        (Facet.filter second none).result = .ok back →
          ∀ focus, ∃ focused facets, (Facet.filter first focus).result = .ok focused ∧
            (Facet.filter (first ++ c :: second) focus).result = .ok facets ∧
              ∀ name, facets.terms name = focused.terms name ++ back.terms name := by
  have cut := tokens_separated apart separates
  refine ⟨cut, Backend.named_of_tokens_append cut, ?_⟩
  intro front back first_returned second_returned focus
  exact Facet.filter_of_tokens_append cut first_returned second_returned focus

/-- A text whose apostrophe the scan skips. -/
def strayMark : Text := "it's tag:x".toList

/-- A text without quote marks. -/
def noMark : Text := "tag:y since:2min".toList

theorem search_separated_by_mark :
    (∀ mark, Skips strayMark mark → mark ∉ noMark) ∧ Separates '"' strayMark noMark ∧
      tokens (strayMark ++ '"' :: noMark) = tokens strayMark ++ tokens noMark ∧
      ∃ facets, (Facet.filter (strayMark ++ '"' :: noMark) none).result = .ok facets ∧
        facets.terms .tag = [.text "x".toList] ++ [.text "y".toList] := by
  have apart : ∀ mark, Skips strayMark mark → mark ∉ noMark := by
    intro mark skips inside
    have no_quote : noMark.all (fun c => !Text.isQuote c) = true := by decide
    have plain := List.all_eq_true.1 no_quote mark inside
    rw [skips.1] at plain
    cases plain
  have separates : Separates '"' strayMark noMark := by
    refine Or.inr ⟨by decide, by decide, ?_⟩
    intro skips
    have missing : '"' ∉ strayMark := by decide
    exact missing skips.mem
  have first_returned : (Facet.filter strayMark none).result =
      .ok { any := [.text "it".toList, .text "s".toList], tag := [.text "x".toList] } := by
    decide +kernel
  have second_returned : (Facet.filter noMark none).result =
      .ok { since := [.number 120], tag := [.text "y".toList] } := by
    decide +kernel
  obtain ⟨cut, _, facets_of⟩ := search_separated apart separates
  obtain ⟨focused, facets, focused_returned, returned, terms⟩ :=
    facets_of _ _ first_returned second_returned none
  refine ⟨apart, separates, cut, facets, returned, ?_⟩
  rw [first_returned] at focused_returned
  cases focused_returned
  exact terms .tag

end FacetedSearch
