/-
Module: FacetedSearch.Proofs.Facet.Audit
Purpose: What a search logs about its tokens, told by the tokens alone. A search with facets logs the
  tokens whose route is to be dropped; a search that stops logs those of them that stand before the
  token it stops at.
Imports: FacetedSearch.Proofs.Facet.Failure
Main exports: Facet.HasRoute, Facet.dropped, Facet.silent, Facet.silent_eq_dropped,
  Facet.events_of_ok, Facet.events_of_error
-/
import FacetedSearch.Proofs.Facet.Failure

namespace FacetedSearch

namespace Facet

/-- The token has a route. -/
def HasRoute (token : Text) : Prop := ∃ r, Routed token r

instance (token : Text) (r : Route) : Decidable (Routed token r) :=
  decidable_of_iff (route token = .ok r) route_eq_ok_iff

/-- The tokens whose route is to be dropped, in order. -/
def dropped (tokens : List Text) : List Text := tokens.filter fun token => Routed token .dropped

theorem dropped_cons_of_into {token : Text} {name : Name} {value : Value}
    (routed : Routed token (.into name value)) (tokens : List Text) :
    dropped (token :: tokens) = dropped tokens := by
  have kept : ¬ Routed token .dropped := by
    intro other
    cases (route_of_routed routed).symm.trans (route_of_routed other)
  exact List.filter_cons_of_neg (by simpa using kept)

theorem dropped_cons_of_dropped {token : Text} (routed : Routed token .dropped)
    (tokens : List Text) : dropped (token :: tokens) = token :: dropped tokens :=
  List.filter_cons_of_pos (by simpa using routed)

theorem droppedOf_eq_dropped {tokens : List Text} {routes : List Route}
    (routed : List.Forall₂ Routed tokens routes) : droppedOf tokens routes = dropped tokens := by
  induction routed with
  | nil => rfl
  | @cons token r tokens routes first _ ih =>
      cases r with
      | into name value => rw [droppedOf_cons_into, dropped_cons_of_into first, ih]
      | dropped => rw [droppedOf_cons_dropped, dropped_cons_of_dropped first, ih]

theorem hasRoute_of_forall₂ {tokens : List Text} {routes : List Route}
    (routed : List.Forall₂ Routed tokens routes) : ∀ token ∈ tokens, HasRoute token :=
  fun _ mem => exists_routed_of_mem routed mem

/-- The tokens whose routes bring no term to any facet. -/
def silent (tokens : List Text) (routes : List Route) : List Text :=
  ((tokens.zip routes).filter fun pair => ∀ name ∈ Name.all, pair.2.term? name = none).map Prod.fst

/-- To be dropped is the only way to bring no term. -/
theorem term?_eq_none_iff {r : Route} : (∀ name ∈ Name.all, r.term? name = none) ↔ r = .dropped := by
  constructor
  · intro nothing
    cases r with
    | dropped => rfl
    | into target value =>
        have brought : Route.term? target (.into target value) = some value := if_pos rfl
        rw [nothing target (Name.mem_all target)] at brought
        cases brought
  · rintro rfl name _
    rfl

theorem silent_eq_dropped {tokens : List Text} {routes : List Route}
    (routed : List.Forall₂ Routed tokens routes) : silent tokens routes = dropped tokens := by
  rw [← droppedOf_eq_dropped routed]
  unfold silent droppedOf
  simp only [term?_eq_none_iff]

/-- A run that stops has a first token without a route, and routes for all tokens before it. -/
theorem StopsAfter.cut {tooLong : Duration.TooLong} {tokens : List Text} {routes : List Route}
    (stops : StopsAfter tooLong tokens routes) :
    ∃ before offending after, tokens = before ++ offending :: after ∧
      (∀ token ∈ before, HasRoute token) ∧ route offending = .error tooLong ∧
        droppedOf tokens routes = dropped before := by
  induction stops with
  | @here token tokens failed =>
      refine ⟨[], token, tokens, rfl, ?_, failed, rfl⟩
      intro token mem
      cases mem
  | @later token r tokens routes first _ ih =>
      obtain ⟨before, offending, after, rfl, before_routed, failed, same⟩ := ih
      refine ⟨token :: before, offending, after, rfl, ?_, failed, ?_⟩
      · exact List.forall_mem_cons.2 ⟨⟨r, first⟩, before_routed⟩
      · cases r with
        | into name value => rw [droppedOf_cons_into, dropped_cons_of_into first, same]
        | dropped => rw [droppedOf_cons_dropped, dropped_cons_of_dropped first, same]

theorem events_of_ok {text : Text} {focus : Option Focus} {facets : Facets}
    (returned : (filter text focus).result = .ok facets) :
    (∀ token ∈ Query.tokens text, HasRoute token) ∧
      (filter text focus).events = (dropped (Query.tokens text)).map droppedEvent := by
  obtain ⟨routes, routed⟩ := routed_of_sort_ok returned
  refine ⟨hasRoute_of_forall₂ routed, ?_⟩
  unfold filter Sorted.events
  rw [sort_of_routed routed, droppedOf_eq_dropped routed]

theorem events_of_error {text : Text} {focus : Option Focus} {tooLong : Duration.TooLong}
    (failed : (filter text focus).result = .error tooLong) :
    ∃ before offending after, Query.tokens text = before ++ offending :: after ∧
      (∀ token ∈ before, HasRoute token) ∧ route offending = .error tooLong ∧
        (filter text focus).events = (dropped before).map droppedEvent := by
  obtain ⟨routes, stops⟩ := sort_eq_error_iff.1 failed
  obtain ⟨before, offending, after, cut, routed, offends, same⟩ := stops.cut
  refine ⟨before, offending, after, cut, routed, offends, ?_⟩
  unfold filter Sorted.events
  rw [sort_of_stopsAfter stops, same]

end Facet

end FacetedSearch
