/-
Module: FacetedSearch.Proofs.Answer
Purpose: What the results of a search text show as JSON values. Tokens are strings, parameters are
  members with arrays of strings, and facets are seven members in their order. Terms keep their kind:
  the sorting of tokens puts numbers under `since` and texts everywhere else.
Imports: FacetedSearch.Answer, FacetedSearch.Proofs.Facet.Routing, FacetedSearch.Proofs.Parameters
Main exports: Facet.Kinds, Facet.kinds_follow, Facet.kinds_filter, Answer.parameters_eq,
  Answer.ShowsFacets, Answer.showsFacets_of_kinds
-/
import FacetedSearch.Answer
import FacetedSearch.Proofs.Facet.Routing
import FacetedSearch.Proofs.Parameters

namespace FacetedSearch

namespace Facet

/-!
### Kinds of terms

Following a route brings a number to `since` and texts to all other facets, and so does every run.
-/

/-- The kind that the terms of a facet have. -/
inductive OfKind : Name → Value → Prop where
  | number (seconds : Nat) : OfKind .since (.number seconds)
  | text {name : Name} (other : name ≠ .since) (text : Text) : OfKind name (.text text)

/-- Every term has the kind of its facet. -/
def Kinds (facets : Facets) : Prop := ∀ name, ∀ value ∈ facets.terms name, OfKind name value

theorem kinds_add {facets : Facets} {name : Name} {value : Value} (kinds : Kinds facets)
    (kind : OfKind name value) : Kinds (facets.add name value) := by
  intro other held mem
  rw [Facets.terms_add] at mem
  rcases List.mem_append.1 mem with before | added
  · exact kinds other held before
  · split at added
    · next same =>
        rw [← same, List.mem_singleton.1 added]
        exact kind
    · cases added

theorem kinds_follow {facets : Facets} {token : Text} {r : Route} (kinds : Kinds facets)
    (routed : Routed token r) : Kinds (r.follow facets) := by
  cases routed with
  | @value name headed direct =>
      have other : name ≠ .since := by
        rintro rfl
        exact absurd direct (by decide)
      exact kinds_add kinds (.text other _)
  | since headed read => exact kinds_add kinds (.number _)
  | dropped headed unread => exact kinds
  | any headed unnamed => exact kinds_add kinds (.text (by decide) _)

theorem kinds_foldl_follow {tokens : List Text} {routes : List Route}
    (routed : List.Forall₂ Routed tokens routes) {facets : Facets} (kinds : Kinds facets) :
    Kinds (routes.foldl Route.follow facets) := by
  induction routed generalizing facets with
  | nil => exact kinds
  | cons first _ ih => exact ih (kinds_follow kinds first)

theorem kinds_start (focus : Option Focus) : Kinds (start focus) := by
  intro name value mem
  unfold start at mem
  split at mem
  · cases name <;> cases mem
  · cases name <;> cases mem
  · cases name with
    | user =>
        rw [List.mem_singleton.1 mem]
        exact .text (by decide) _
    | any | quote | since | tag | text | uri => cases mem

theorem kinds_filter {text : Text} {focus : Option Focus} {facets : Facets}
    (returned : (filter text focus).result = .ok facets) : Kinds facets := by
  unfold filter at returned
  obtain ⟨routes, routed⟩ := routed_of_sort_ok returned
  rw [sort_of_routed routed] at returned
  rw [← Except.ok.inj returned]
  exact kinds_foldl_follow routed (kinds_start focus)

theorem Kinds.numbers {facets : Facets} (kinds : Kinds facets) :
    ∃ seconds : List Nat, facets.terms .since = seconds.map fun n : Nat => Value.number n := by
  have each : ∀ value ∈ facets.terms .since, value ∈ Set.range fun n : Nat => Value.number n := by
    intro value mem
    cases kinds .since value mem with
    | number seconds => exact ⟨seconds, rfl⟩
    | text other text => exact absurd rfl other
  obtain ⟨seconds, same⟩ := (Set.range_list_map fun n : Nat => Value.number n).ge each
  exact ⟨seconds, same.symm⟩

theorem Kinds.texts {facets : Facets} (kinds : Kinds facets) {name : Name}
    (other : name ≠ .since) : ∃ texts : List Text, facets.terms name = texts.map .text := by
  have each : ∀ value ∈ facets.terms name, value ∈ Set.range Value.text := by
    intro value mem
    cases kinds name value mem with
    | number seconds => exact absurd rfl other
    | text _ text => exact ⟨text, rfl⟩
  obtain ⟨texts, same⟩ := (Set.range_list_map Value.text).ge each
  exact ⟨texts, same.symm⟩

end Facet

namespace Answer

/-!
### Results as values
-/

/-- Parameters by name, each with its values as strings. -/
theorem parameters_eq (text : Text) :
    parameters (Backend.parameters text) =
      .obj ((Backend.named text).map fun group => (group.1, .arr (group.2.map .str))) := by
  unfold parameters Backend.named Grouping.rename
  rw [List.map_map]
  rfl

/-- A facet under its name: its operator and its terms. -/
def shownFacet (label operator : String) (terms : List Json) : Text × Json :=
  (label.toList, .obj [("operator".toList, .str operator.toList), ("terms".toList, .arr terms)])

/-- The value shows the facets: all seven in their order, with strings for terms that are texts and
whole numbers for the seconds of `since`. -/
def ShowsFacets (facets : Facets) (shown : Json) : Prop :=
  ∃ (texts : Facet.Name → List Text) (seconds : List Nat),
    facets.terms .since = seconds.map (fun n : Nat => Value.number n) ∧
    (∀ name, name ≠ .since → facets.terms name = (texts name).map .text) ∧
    shown = .obj [
      shownFacet "any" "and" ((texts .any).map .str),
      shownFacet "quote" "and" ((texts .quote).map .str),
      shownFacet "since" "and" (seconds.map fun n : Nat => Json.int n),
      shownFacet "tag" "and" ((texts .tag).map .str),
      shownFacet "text" "and" ((texts .text).map .str),
      shownFacet "uri" "or" ((texts .uri).map .str),
      shownFacet "user" "or" ((texts .user).map .str)]

theorem showsFacets_of_kinds {facets : Facets} (kinds : Facet.Kinds facets) :
    ShowsFacets facets (Answer.facets facets) := by
  obtain ⟨seconds, since⟩ := kinds.numbers
  have each : ∀ name : Facet.Name, ∃ texts : List Text,
      name ≠ .since → facets.terms name = texts.map .text := by
    intro name
    by_cases same : name = .since
    · exact ⟨[], fun other => absurd same other⟩
    · obtain ⟨texts, held⟩ := kinds.texts same
      exact ⟨texts, fun _ => held⟩
  choose texts others using each
  refine ⟨texts, seconds, since, others, ?_⟩
  have strings : ∀ name, name ≠ .since → (facets.terms name).map value = (texts name).map .str := by
    intro name other
    rw [others name other, List.map_map]
    rfl
  have numbers : (facets.terms .since).map value = seconds.map fun n : Nat => Json.int n := by
    rw [since, List.map_map]
    rfl
  rw [← strings .any (by decide), ← strings .quote (by decide), ← numbers,
    ← strings .tag (by decide), ← strings .text (by decide), ← strings .uri (by decide),
    ← strings .user (by decide)]
  rfl

end Answer

end FacetedSearch
