/-
Module: FacetedSearch.Proofs.Swap
Purpose: A search for a text with its quote marks exchanged finds what the search for the text finds,
  with the marks exchanged: the same parameters with such values, the same facets with such terms and
  such tokens left out, the same seconds, and the same error if there is one. Fields are named and
  durations are spelled without quote marks, so neither the way of a token nor a reading changes.
Imports: FacetedSearch.Proofs.Answer, FacetedSearch.Proofs.Duration, FacetedSearch.Proofs.Parameters,
  FacetedSearch.Proofs.Query.Plain, FacetedSearch.Proofs.Query.Swap
Main exports: Backend.named_swapMarks, Duration.seconds?_swapMarks, Facet.route_swapMarks,
  Facet.sort_swapMarks, marks_interchange
-/
import FacetedSearch.Proofs.Answer
import FacetedSearch.Proofs.Duration
import FacetedSearch.Proofs.Parameters
import FacetedSearch.Proofs.Query.Plain
import FacetedSearch.Proofs.Query.Swap

namespace FacetedSearch

open Text

/-!
### Parameters
-/

theorem Query.terms_swapMarks (text : Text) :
    terms text.swapMarks = (terms text).map Term.swapMarks := by
  unfold terms
  rw [tokens_swapMarks, List.map_map, List.map_map]
  apply List.map_congr_left
  intro token _
  exact Term.ofText_swapMarks token

theorem Backend.namedEntry_swapMarks (term : Query.Term) :
    namedEntry term.swapMarks = ((namedEntry term).1, (namedEntry term).2.swapMarks) := by
  cases term <;> rfl

theorem Backend.named_swapMarks (text : Text) :
    named text.swapMarks = (named text).mapValues swapMarks := by
  rw [named_eq_ofPairs, named_eq_ofPairs, Grouping.mapValues_ofPairs, Query.terms_swapMarks,
    List.map_map, List.map_map]
  congr 1
  apply List.map_congr_left
  intro term _
  exact namedEntry_swapMarks term

/-!
### Durations

The letters of a duration are plain, also in lower case, and a quote mark has no other case.
-/

namespace Duration

theorem isPlain_of_mem_toText {duration : Duration}
    (isDigit : ∀ c ∈ duration.digits, c.isDigit = true) :
    ∀ c ∈ duration.toText, Query.isPlain c = true := by
  have ending_plain :
      (ending duration.unit duration.plural).all Query.isPlain = true := by
    cases duration.unit with
    | none => rfl
    | some unit => cases unit <;> cases duration.plural <;> decide
  rw [toText_eq]
  refine List.forall_mem_append.2 ⟨?_, List.all_eq_true.1 ending_plain⟩
  exact fun c mem => Query.isPlain_of_isDigit (isDigit c mem)

theorem mem_lower_of_isQuote {c : Char} (quote : isQuote c = true) {text : Text} (mem : c ∈ text) :
    c ∈ text.lower := by
  have one_case : lowerChar c = [c] := by
    rcases isQuote_iff.1 quote with rfl | rfl <;> rfl
  refine List.mem_flatMap.2 ⟨c, mem, ?_⟩
  rw [one_case]
  exact List.mem_singleton_self c

theorem IsSpelledBy.swapMarks_eq {duration : Duration} {text : Text}
    (spelled : duration.IsSpelledBy text) : text.swapMarks = text := by
  apply swapMarks_of_not_quote
  intro c mem
  cases quote : isQuote c with
  | false => rfl
  | true =>
      have inside := mem_lower_of_isQuote quote mem
      rw [spelled.lower_eq] at inside
      have plain := isPlain_of_mem_toText spelled.isDigit c inside
      rw [Query.isPlain_eq_false_of_isQuote quote] at plain
      cases plain

theorem isSpelledBy_swapMarks {duration : Duration} {text : Text} :
    duration.IsSpelledBy text.swapMarks ↔ duration.IsSpelledBy text := by
  constructor
  · intro spelled
    have same := spelled.swapMarks_eq
    rw [swapMarks_involutive] at same
    rwa [← same] at spelled
  · intro spelled
    rwa [spelled.swapMarks_eq]

theorem seconds?_swapMarks (text : Text) : seconds? text.swapMarks = seconds? text := by
  have same : ofText? text.swapMarks = ofText? text := by
    ext duration
    rw [ofText?_eq_some_iff, ofText?_eq_some_iff, isSpelledBy_swapMarks]
  unfold seconds?
  rw [same]

end Duration

/-!
### Facets
-/

/-- A term with the quote marks in it exchanged; a number has none. -/
def Value.swapMarks : Value → Value
  | .text held => .text held.swapMarks
  | .number seconds => .number seconds

/-- Facets with the quote marks in all terms exchanged. -/
def Facets.swapMarks (facets : Facets) : Facets where
  any := facets.any.map Value.swapMarks
  quote := facets.quote.map Value.swapMarks
  since := facets.since.map Value.swapMarks
  tag := facets.tag.map Value.swapMarks
  text := facets.text.map Value.swapMarks
  uri := facets.uri.map Value.swapMarks
  user := facets.user.map Value.swapMarks

theorem Facets.terms_swapMarks (facets : Facets) (name : Facet.Name) :
    facets.swapMarks.terms name = (facets.terms name).map Value.swapMarks := by
  cases name <;> rfl

theorem Facets.add_swapMarks (name : Facet.Name) (value : Value) (facets : Facets) :
    (facets.add name value).swapMarks = facets.swapMarks.add name value.swapMarks := by
  apply ext_terms
  intro other
  rw [terms_swapMarks, terms_add, terms_add, terms_swapMarks, List.map_append]
  split <;> rfl

namespace Facet

open Query

/-- A route with the quote marks in its term exchanged. -/
def Route.swapMarks : Route → Route
  | .into name value => .into name value.swapMarks
  | .dropped => .dropped

theorem heading_swapMarks (token : Text) : heading token.swapMarks = (heading token).swapMarks := by
  unfold heading
  rw [cut?_swapMarks (by decide)]
  cases token.cut? ':' with
  | some sides => rfl
  | none => exact List.map_dropLast.symm

theorem body_swapMarks (token : Text) : body token.swapMarks = (body token).swapMarks := by
  unfold body
  rw [heading_swapMarks, length_swapMarks]
  exact List.map_drop.symm

/-- The way of a token does not depend on which quote mark is used in it. -/
theorem route_swapMarks (token : Text) :
    route token.swapMarks = (route token).map Route.swapMarks := by
  unfold route
  rw [heading_swapMarks, Field.ofName?_swapMarks, body_swapMarks, Duration.seconds?_swapMarks]
  cases Field.ofName? (heading token) with
  | none => rfl
  | some field =>
      cases field with
      | quote | tag | text | uri | user | group => rfl
      | since =>
          cases Duration.seconds? (body token) with
          | error tooLong => rfl
          | ok reading => cases reading <;> rfl

/-- The outcome of sorting with the quote marks in all terms and tokens exchanged. -/
def Sorted.swapMarks (sorted : Sorted) : Sorted where
  dropped := sorted.dropped.map Text.swapMarks
  result := sorted.result.map Facets.swapMarks

theorem sort_swapMarks (tokens : List Text) (facets : Facets) :
    sort (tokens.map Text.swapMarks) facets.swapMarks = (sort tokens facets).swapMarks := by
  induction tokens generalizing facets with
  | nil => rfl
  | cons token tokens ih =>
      rw [List.map_cons, sort, route_swapMarks, sort]
      cases route token with
      | error tooLong => rfl
      | ok r =>
          cases r with
          | into name value =>
              change sort (tokens.map Text.swapMarks) (facets.swapMarks.add name value.swapMarks) = _
              rw [← Facets.add_swapMarks, ih]
          | dropped =>
              simp only [Except.map, Route.swapMarks, ih]
              rfl

theorem filter_swapMarks (text : Text) :
    filter text.swapMarks none = (filter text none).swapMarks := by
  have no_terms : (start none).swapMarks = start none := rfl
  unfold filter
  rw [tokens_swapMarks]
  nth_rewrite 1 [← no_terms]
  exact sort_swapMarks _ _

theorem Kinds.since_swapMarks {facets : Facets} (kinds : Kinds facets) :
    facets.swapMarks.terms .since = facets.terms .since := by
  obtain ⟨seconds, since⟩ := kinds.numbers
  rw [Facets.terms_swapMarks, since, List.map_map]
  rfl

end Facet

/-- Exchanging the two quote marks in a search text exchanges them in each run and in each token, in
the values of the parameters, whose names and order stay, in the tokens that are left out, and in the
terms of the facets other than `since`, whose seconds stay. There are facets for both texts or for
neither, and then the same error is reported. -/
theorem marks_interchange (text : Text) :
    Query.runs text.swapMarks = (Query.runs text).map swapMarks ∧
    Query.tokens text.swapMarks = (Query.tokens text).map swapMarks ∧
    Backend.named text.swapMarks =
      (Backend.named text).map (fun group => (group.1, group.2.map swapMarks)) ∧
    (∀ tooLong, (Facet.filter text.swapMarks none).result = .error tooLong ↔
      (Facet.filter text none).result = .error tooLong) ∧
    (Facet.filter text.swapMarks none).dropped = (Facet.filter text none).dropped.map swapMarks ∧
    ∀ facets, (Facet.filter text none).result = .ok facets →
      ∃ swapped, (Facet.filter text.swapMarks none).result = .ok swapped ∧
        swapped.terms .since = facets.terms .since ∧
        ∀ name, name ≠ .since → ∃ texts : List Text, facets.terms name = texts.map .text ∧
          swapped.terms name = (texts.map swapMarks).map .text := by
  refine ⟨Query.runs_swapMarks text, Query.tokens_swapMarks text, Backend.named_swapMarks text,
    ?error, ?dropped, ?found⟩
  case error =>
    intro tooLong
    rw [Facet.filter_swapMarks, Facet.Sorted.swapMarks]
    cases (Facet.filter text none).result with
    | error other => exact Iff.rfl
    | ok facets =>
        exact iff_of_false (fun failed => by cases failed) (fun failed => by cases failed)
  case dropped =>
    rw [Facet.filter_swapMarks]
    rfl
  case found =>
    intro facets returned
    have kinds := Facet.kinds_filter returned
    refine ⟨facets.swapMarks, ?_, kinds.since_swapMarks, ?_⟩
    · rw [Facet.filter_swapMarks, Facet.Sorted.swapMarks, returned]
      rfl
    · intro name other
      obtain ⟨texts, held⟩ := kinds.texts other
      refine ⟨texts, held, ?_⟩
      rw [Facets.terms_swapMarks, held, List.map_map, List.map_map]
      rfl

end FacetedSearch
