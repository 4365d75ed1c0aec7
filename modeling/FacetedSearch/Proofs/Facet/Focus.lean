/-
Module: FacetedSearch.Proofs.Facet.Focus
Purpose: What a focus changes in a search. Sorting only ever adds terms at the end of facets, and what
  it adds does not depend on the terms that are there: it sorts in the same way behind any facets. A
  focus gives at most one term to start with, so the search under a focus is the search without it,
  behind that term.
Imports: FacetedSearch.Proofs.Facet.Routing
Main exports: Facets.append, Facet.sort_append, Facet.filter_eq_behind, Facet.Focus.Gives,
  Facet.focus_prepends_user
-/
import FacetedSearch.Proofs.Facet.Routing

namespace FacetedSearch

/-!
### Facets behind others
-/

/-- Each facet has the terms of the first and then those of the second. -/
def Facets.append (front back : Facets) : Facets where
  any := front.any ++ back.any
  quote := front.quote ++ back.quote
  since := front.since ++ back.since
  tag := front.tag ++ back.tag
  text := front.text ++ back.text
  uri := front.uri ++ back.uri
  user := front.user ++ back.user

@[simp] theorem Facets.terms_append (front back : Facets) (name : Facet.Name) :
    (front.append back).terms name = front.terms name ++ back.terms name := by
  cases name <;> rfl

/-- A term is added behind all others. -/
theorem Facets.add_append (front back : Facets) (name : Facet.Name) (value : Value) :
    (front.append back).add name value = front.append (back.add name value) := by
  apply ext_terms
  intro other
  simp [terms_add]

@[simp] theorem Facets.append_empty (front : Facets) : front.append {} = front := by
  simp [append]

@[simp] theorem Facets.empty_append (back : Facets) : Facets.append {} back = back := by
  simp [append]

namespace Facet

/-- The outcome of sorting behind other facets: the same error, or the same facets behind these. -/
def Sorted.behind (front : Facets) (sorted : Sorted) : Sorted where
  dropped := sorted.dropped
  result := sorted.result.map front.append

@[simp] theorem Sorted.dropped_behind (front : Facets) (sorted : Sorted) :
    (sorted.behind front).dropped = sorted.dropped := rfl

@[simp] theorem Sorted.behind_empty (sorted : Sorted) : sorted.behind {} = sorted := by
  cases sorted with
  | mk dropped result => cases result <;> simp [behind, Except.map]

theorem Sorted.result_behind_eq_error_iff {front : Facets} {sorted : Sorted}
    {tooLong : Duration.TooLong} :
    (sorted.behind front).result = .error tooLong ↔ sorted.result = .error tooLong := by
  cases found : sorted.result <;> simp [behind, found, Except.map]

/-- What a run adds to the facets does not depend on them. The way of each token is the same behind
`front` as without it, and adding a term leaves `front` in front. -/
theorem sort_append (tokens : List Text) (front back : Facets) :
    sort tokens (front.append back) = (sort tokens back).behind front := by
  induction tokens generalizing back with
  | nil => rfl
  | cons token tokens ih =>
      cases way : route token with
      | error tooLong => simp [sort, way, Sorted.behind, Except.map]
      | ok r =>
          cases r with
          | into name value => simp only [sort, way, Facets.add_append, ih]
          | dropped =>
              simp only [sort, way, ih]
              rfl

/-!
### The user looked at
-/

theorem filter_eq_behind (text : Text) (focus : Option Focus) :
    filter text focus = (filter text none).behind (start focus) := by
  have from_none : start none = {} := rfl
  unfold filter
  rw [from_none, ← sort_append, Facets.append_empty]

/-- The user that a focus gives, if it does: that of a filter, or what stands under `user` in a mapping,
in which a key stands once. -/
inductive Focus.Gives : Option Focus → Option Text → Prop where
  | nothing : Gives none none
  | filter (user : Option Text) : Gives (some (.filter user)) user
  | entry {entries : List (Text × Option Text)} {user : Option Text}
      (distinct : (entries.map Prod.fst).Nodup) (mem : ("user".toList, user) ∈ entries) :
      Gives (some (.mapping entries)) user
  | missing {entries : List (Text × Option Text)}
      (absent : ∀ entry ∈ entries, entry.1 ≠ "user".toList) : Gives (some (.mapping entries)) none

theorem Focus.Gives.user?_eq {focus : Option Focus} {user : Option Text}
    (gives : Gives focus user) : focus.bind Focus.user? = user := by
  cases gives with
  | nothing => rfl
  | filter => rfl
  | @entry entries user distinct mem =>
      cases found : entries.find? (·.1 == "user".toList) with
      | none =>
          have nowhere := List.find?_eq_none.1 found _ mem
          simp at nowhere
      | some entry =>
          have key : entry.1 = "user".toList := by simpa using List.find?_some found
          have same : entry = ("user".toList, user) :=
            List.inj_on_of_nodup_map distinct (List.mem_of_find?_eq_some found) mem key
          simp only [Option.bind_some, Focus.user?]
          rw [found, same]
  | @missing entries absent =>
      have none_found : entries.find? (·.1 == "user".toList) = none := by
        simpa [List.find?_eq_none] using absent
      simp only [Option.bind_some, Focus.user?]
      rw [none_found]

theorem start_of_gives {focus : Option Focus} {user : Option Text}
    (gives : Focus.Gives focus user) : start focus = start (some (.filter user)) := by
  unfold start
  rw [gives.user?_eq]
  rfl

theorem start_of_user {user : Text} (not_empty : user ≠ []) :
    start (some (.filter (some user))) = { user := [.text user] } := by
  cases user with
  | nil => exact absurd rfl not_empty
  | cons c rest => rfl

/-- A search under a focus depends on the user that the focus gives, and on nothing else of it. Without
a user, or with an empty name, it is the search without a focus. A user whose name is not empty comes
first in the facet `user`, as given; everything else is as without a focus: the other terms, what is
logged, and the error if there is one. -/
theorem focus_prepends_user (text : Text) :
    (∀ focus user, Focus.Gives focus user →
      filter text focus = filter text (some (.filter user))) ∧
    (∀ user, user = none ∨ user = some [] →
      filter text (some (.filter user)) = filter text none) ∧
    ∀ user, user ≠ [] →
      (filter text (some (.filter (some user)))).events = (filter text none).events ∧
      (∀ tooLong, (filter text (some (.filter (some user)))).result = .error tooLong ↔
        (filter text none).result = .error tooLong) ∧
      ∀ facets, (filter text none).result = .ok facets →
        (filter text (some (.filter (some user)))).result =
          .ok { facets with user := .text user :: facets.user } := by
  refine ⟨?given, ?none_given, ?first⟩
  case given =>
    intro focus user gives
    rw [filter_eq_behind text focus, start_of_gives gives, ← filter_eq_behind]
  case none_given =>
    rintro user (rfl | rfl)
    · exact (filter_eq_behind text _).trans (Sorted.behind_empty _)
    · exact (filter_eq_behind text _).trans (Sorted.behind_empty _)
  case first =>
    intro user not_empty
    have focused := filter_eq_behind text (some (.filter (some user)))
    rw [start_of_user not_empty] at focused
    rw [focused]
    refine ⟨rfl, ?_, ?_⟩
    · intro tooLong
      exact Sorted.result_behind_eq_error_iff
    · intro facets returned
      simp [Sorted.behind, returned, Except.map, Facets.append]

/-- A user whose name looks like a search. -/
def oddUser : Text := " user:\"al\" 'x' ".toList

/-- A mapping with that user under its key and something else beside it. -/
def oddMapping : List (Text × Option Text) :=
  [("group".toList, some "g".toList), ("user".toList, some oddUser)]

theorem focus_prepends_user_odd :
    Focus.Gives (some (.mapping oddMapping)) (some oddUser) ∧ oddUser ≠ [] ∧
      (filter mixedSearch none).result =
        .ok { any := [.text "group:g".toList], since := [.number 120], user := [.text []] } ∧
      (filter mixedSearch (some (.mapping oddMapping))).result =
        .ok { any := [.text "group:g".toList], since := [.number 120],
              user := [.text oddUser, .text []] } ∧
      filter mixedSearch (some (.mapping [])) = filter mixedSearch none := by
  obtain ⟨given, none_given, first⟩ := focus_prepends_user mixedSearch
  have gives : Focus.Gives (some (.mapping oddMapping)) (some oddUser) :=
    .entry (by decide) (by simp [oddMapping])
  have not_empty : oddUser ≠ [] := by decide
  have unfocused : (filter mixedSearch none).result =
      .ok { any := [.text "group:g".toList], since := [.number 120], user := [.text []] } := by
    decide +kernel
  obtain ⟨_, _, returns⟩ := first oddUser not_empty
  refine ⟨gives, not_empty, unfocused, ?_, ?_⟩
  · rw [given _ _ gives, returns _ unfocused]
  · rw [given _ _ (.missing (by simp)), none_given none (Or.inl rfl)]

end Facet

end FacetedSearch
