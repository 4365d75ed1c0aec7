/-
Module: FacetedSearch.Proofs.Facet.Agreement
Purpose: The facets of a search text and its parameters tell the same. The parameters read a token as
  a term, the facets cut it behind its heading; the two readings differ only for a word such as
  `users`, which stands under `user` but is free text. Where no such word occurs, the terms of every
  facet are the values of the parameters, and the durations left out are those that cannot be read.
Imports: FacetedSearch.Proofs.Facet.Routing, FacetedSearch.Proofs.Parameters
Main exports: Facet.Lookalike, Facet.routeOfTerm, Facet.route_eq_routeOfTerm,
  Facet.filter_agrees_named
-/
import FacetedSearch.Proofs.Facet.Routing
import FacetedSearch.Proofs.Parameters

namespace FacetedSearch

namespace Facet

open Query Backend

/-- A word without a colon that is one character longer than a facet's name: it stands under the
facet, though it is free text. -/
def Lookalike (token : Text) : Prop :=
  ':' ∉ token ∧ ∃ name ∈ Name.since :: valueFacets, ∃ c, token = name.label ++ [c]

theorem concat_label_iff {token : Text} {name : Name} :
    (token ≠ [] ∧ token.dropLast = name.label) ↔ ∃ c, token = name.label ++ [c] := by
  constructor
  · rintro ⟨not_empty, same⟩
    refine ⟨token.getLast not_empty, ?_⟩
    rw [← same, List.dropLast_append_getLast not_empty]
  · rintro ⟨c, rfl⟩
    simp

instance (token : Text) : Decidable (Lookalike token) :=
  decidable_of_iff
    (':' ∉ token ∧ ∃ name ∈ Name.since :: valueFacets, token ≠ [] ∧ token.dropLast = name.label) <|
    by simp only [concat_label_iff, Lookalike]

/-!
### One token

A token that is no lookalike goes where its term goes.  The heading of a written field value is the
field's name, and the heading of free text names no facet.
-/

/-- The way of a term. -/
def routeOfTerm : Term → Except Duration.TooLong Route
  | .tagged .quote value => .ok (.into .quote (.text value))
  | .tagged .tag value => .ok (.into .tag (.text value))
  | .tagged .text value => .ok (.into .text (.text value))
  | .tagged .uri value => .ok (.into .uri (.text value))
  | .tagged .user value => .ok (.into .user (.text value))
  | .tagged .since value =>
      match Duration.seconds? value with
      | .error tooLong => .error tooLong
      | .ok none => .ok .dropped
      | .ok (some seconds) => .ok (.into .since (.number seconds))
  | .tagged .group value => .ok (.into .any (.text (Term.tagged .group value).toText))
  | .free text => .ok (.into .any (.text text))

theorem headedBy_tagged (field : Field) (value : Text) :
    HeadedBy (Term.tagged field value).toText field.name := .colon field.colon_not_mem_name

theorem body_tagged (field : Field) (value : Text) :
    body (Term.tagged field value).toText = value := by
  rw [(headedBy_tagged field value).body_eq]
  simp [Term.toText]

theorem route_tagged (field : Field) (value : Text) :
    route (Term.tagged field value).toText = routeOfTerm (.tagged field value) := by
  have named : Field.ofName? (heading (Term.tagged field value).toText) = some field :=
    Field.ofName?_eq_some_iff.2 (headedBy_tagged field value).eq_heading.symm
  unfold route
  rw [named, body_tagged]
  cases field <;> rfl

theorem Name.label_ne_nil (name : Name) : name.label ≠ [] := by
  cases name <;> decide

theorem route_free {token : Text} (free : Term.ofText token = .free token)
    (plain : ¬ Lookalike token) : route token = .ok (.into .any (.text token)) := by
  apply route_of_routed
  apply routed_any
  unfold Term.ofText at free
  unfold heading
  cases cut : token.cut? ':' with
  | some sides =>
      rw [cut] at free
      cases found : Field.ofName? sides.1 with
      | none => exact unnamed_iff.2 (Or.inl found)
      | some field =>
          simp only [found] at free
          cases free
  | none =>
      intro name listed same
      have not_empty : token ≠ [] := by
        rintro rfl
        exact name.label_ne_nil same.symm
      apply plain
      exact ⟨Text.cut?_eq_none_iff.1 cut, name, listed, concat_label_iff.1 ⟨not_empty, same⟩⟩

theorem route_eq_routeOfTerm {token : Text} (plain : ¬ Lookalike token) :
    route token = routeOfTerm (Term.ofText token) := by
  have written := Term.toText_ofText token
  cases term : Term.ofText token with
  | tagged field value =>
      rw [term] at written
      rw [← written, route_tagged]
  | free text =>
      rw [term] at written
      obtain rfl : text = token := written
      exact route_free term plain

/-!
### What a route brings

A route brings to a facet what its term asks a parameter for.  The lemmas go through the terms; a
duration is looked at by its reading.
-/

/-- The seconds of a value that spells a duration which can be read. -/
def readSeconds? (value : Text) : Option Nat :=
  match Duration.seconds? value with
  | .ok reading => reading
  | .error _ => none

/-- The way of a duration is that of its reading; one that is too long has no way. -/
theorem routeOfTerm_since {value : Text} {r : Route}
    (way : routeOfTerm (.tagged .since value) = .ok r) :
    Duration.seconds? value = .ok (readSeconds? value) ∧
      r = (readSeconds? value).elim .dropped fun seconds => .into .since (.number seconds) := by
  simp only [routeOfTerm] at way
  unfold readSeconds?
  split at way
  · cases way
  · next unread =>
      cases way
      simp [unread]
  · next seconds read =>
      cases way
      simp [read]

/-- The facet that takes the values of a field as they are. -/
def valueFacet? : Field → Option Name
  | .quote => some .quote
  | .tag => some .tag
  | .text => some .text
  | .uri => some .uri
  | .user => some .user
  | .since | .group => none

theorem term?_of_value {field : Field} {name : Name} (own : valueFacet? field = some name)
    {term : Term} {r : Route} (way : routeOfTerm term = .ok r) :
    r.term? name = (asked? (parameterOf field) term).map .text := by
  cases term with
  | free text =>
      cases way
      cases field <;> cases own <;> rfl
  | tagged other value =>
      cases other with
      | since =>
          obtain ⟨_, rfl⟩ := routeOfTerm_since way
          cases readSeconds? value <;> cases field <;> cases own <;> rfl
      | quote | tag | text | uri | user | group =>
          cases way
          cases field <;> cases own <;> rfl

theorem term?_of_since {term : Term} {r : Route} (way : routeOfTerm term = .ok r) :
    r.term? .since = ((asked? .since term).bind readSeconds?).map fun seconds => .number seconds := by
  cases term with
  | free text =>
      cases way
      rfl
  | tagged field value =>
      cases field with
      | since =>
          obtain ⟨_, rfl⟩ := routeOfTerm_since way
          change Route.term? .since _ = (readSeconds? value).map _
          cases readSeconds? value <;> rfl
      | quote | tag | text | uri | user | group =>
          cases way
          rfl

/-- The word of a term that is left whole, be it free text or a group. -/
def wholeWord? : Term → Option Text
  | .free text => some text
  | .tagged .group value => some (Term.tagged .group value).toText
  | _ => none

theorem term?_of_any {term : Term} {r : Route} (way : routeOfTerm term = .ok r) :
    r.term? .any = (wholeWord? term).map .text := by
  cases term with
  | free text =>
      cases way
      rfl
  | tagged field value =>
      cases field with
      | since =>
          obtain ⟨_, rfl⟩ := routeOfTerm_since way
          cases readSeconds? value <;> rfl
      | quote | tag | text | uri | user | group =>
          cases way
          rfl

/-- A token is dropped if it asks for a duration that cannot be read, and only then. -/
theorem unread_of_way {term : Term} {r : Route} (way : routeOfTerm term = .ok r) :
    ((asked? .since term).filter fun value => readSeconds? value = none).map
        (fun value => "since:".toList ++ value) =
      if r = .dropped then some term.toText else none := by
  cases term with
  | free text =>
      cases way
      rfl
  | tagged field value =>
      cases field with
      | since =>
          obtain ⟨_, rfl⟩ := routeOfTerm_since way
          have asks : asked? .since (.tagged .since value) = some value := rfl
          have written : (Term.tagged .since value).toText = "since:".toList ++ value := rfl
          rw [asks, written]
          cases read : readSeconds? value <;> simp [read]
      | quote | tag | text | uri | user | group =>
          cases way
          rfl

/-!
Among the words that are left whole, those that begin like a group are the groups: no free text does,
for it would be read as one.
-/

theorem not_group_of_free {text : Text} (free : Term.ofText text = .free text) :
    ¬ "group:".toList <+: text := by
  rintro ⟨value, rfl⟩
  have group : Term.ofText ("group:".toList ++ value) = .tagged .group value :=
    Term.ofText_toText_tagged .group value
  cases group.symm.trans free

theorem filter_wholeWord?_free {term : Term} (read : Term.ofText term.toText = term) :
    (wholeWord? term).filter (fun word => ¬ "group:".toList <+: word) = asked? .any term := by
  cases term with
  | free text =>
      have not_group : ¬ "group:".toList <+: text := not_group_of_free read
      change Option.filter _ (some text) = some text
      rw [Option.filter_some, if_pos (decide_eq_true not_group)]
  | tagged field value => cases field <;> rfl

theorem filter_wholeWord?_group {term : Term} (read : Term.ofText term.toText = term) :
    (wholeWord? term).filter (fun word => "group:".toList <+: word) =
      (asked? .group term).map fun value => "group:".toList ++ value := by
  cases term with
  | free text =>
      have not_group : ¬ "group:".toList <+: text := not_group_of_free read
      change Option.filter _ (some text) = none
      rw [Option.filter_some, if_neg (fun begins => not_group (of_decide_eq_true begins))]
  | tagged field value => cases field <;> rfl

/-!
### A run over terms
-/

/-- Each route is the way of the term beside it. -/
def Follow (terms : List Term) (routes : List Route) : Prop :=
  List.Forall₂ (fun term r => routeOfTerm term = .ok r) terms routes

theorem follow_of_routed {tokens : List Text} {routes : List Route}
    (routed : List.Forall₂ Routed tokens routes) (plain : ∀ token ∈ tokens, ¬ Lookalike token) :
    Follow (tokens.map Term.ofText) routes := by
  induction routed with
  | nil => exact .nil
  | cons first _ ih =>
      obtain ⟨here, later⟩ := List.forall_mem_cons.1 plain
      refine .cons ?_ (ih later)
      rw [← route_eq_routeOfTerm here]
      exact route_of_routed first

/-- What is taken from each route is taken in the order of the terms. -/
theorem Follow.filterMap_eq {β : Type} {terms : List Term} {routes : List Route}
    (follow : Follow terms routes) {ofRoute : Route → Option β} {ofTerm : Term → Option β}
    (same : ∀ term r, routeOfTerm term = .ok r → ofRoute r = ofTerm term) :
    routes.filterMap ofRoute = terms.filterMap ofTerm := by
  induction follow with
  | nil => rfl
  | cons first _ ih => rw [List.filterMap_cons, List.filterMap_cons, same _ _ first, ih]

theorem Follow.droppedOf_eq {terms : List Term} {routes : List Route}
    (follow : Follow terms routes) :
    droppedOf (terms.map Term.toText) routes =
      ((terms.filterMap (asked? .since)).filter fun value => readSeconds? value = none).map
        fun value => "since:".toList ++ value := by
  rw [List.filter_filterMap, List.map_filterMap]
  induction follow with
  | nil => rfl
  | @cons term r terms routes first _ ih =>
      rw [List.filterMap_cons, unread_of_way first, ← ih]
      cases r with
      | into name value => exact droppedOf_cons_into term.toText _ name value routes
      | dropped => exact droppedOf_cons_dropped term.toText _ routes

/-- A run that goes through has read every duration. -/
theorem Follow.read {terms : List Term} {routes : List Route} (follow : Follow terms routes) :
    ∀ value ∈ terms.filterMap (asked? .since),
      Duration.seconds? value = .ok (readSeconds? value) := by
  induction follow with
  | nil =>
      intro value asked
      cases asked
  | @cons term r terms routes first _ ih =>
      intro value asked
      rw [List.mem_filterMap] at asked
      obtain ⟨other, mem, asks⟩ := asked
      rcases List.mem_cons.1 mem with rfl | later
      · cases other with
        | free text => cases asks
        | tagged field held =>
            cases field <;> cases asks
            exact (routeOfTerm_since first).1
      · exact ih value (List.mem_filterMap.2 ⟨other, later, asks⟩)

/-!
### A search text
-/

theorem terms_of_routed {text : Text} {routes : List Route} {facets : Facets}
    (routed : List.Forall₂ Routed (Query.tokens text) routes)
    (returned : (filter text none).result = .ok facets) (name : Name) :
    facets.terms name = routes.filterMap (Route.term? name) := by
  unfold filter at returned
  rw [sort_of_routed routed] at returned
  rw [← Except.ok.inj returned, terms_foldl_follow, terms_start]
  cases name <;> rfl

theorem dropped_of_routed {text : Text} {routes : List Route}
    (routed : List.Forall₂ Routed (Query.tokens text) routes) (focus : Option Focus) :
    (filter text focus).dropped = droppedOf ((Query.terms text).map Term.toText) routes := by
  unfold filter
  rw [map_toText_terms, sort_of_routed routed]

theorem filter_wholeWords_free (text : Text) :
    ((Query.terms text).filterMap wholeWord?).filter (fun word => ¬ "group:".toList <+: word) =
      (named text).values "any".toList := by
  rw [List.filter_filterMap]
  refine Eq.trans ?_ (values_named .any text).symm
  apply List.filterMap_congr
  intro term mem
  exact filter_wholeWord?_free (ofText_toText_of_mem_terms mem)

theorem filter_wholeWords_group (text : Text) :
    ((Query.terms text).filterMap wholeWord?).filter (fun word => "group:".toList <+: word) =
      ((named text).values "group".toList).map fun value => "group:".toList ++ value := by
  have group : (named text).values "group".toList = _ := values_named .group text
  rw [group, List.filter_filterMap, List.map_filterMap]
  apply List.filterMap_congr
  intro term mem
  exact filter_wholeWord?_group (ofText_toText_of_mem_terms mem)

/-- Where no word is a lookalike, the terms of each facet are the values of a parameter: as they are
for most fields; read as durations for `since`, those that cannot be read being logged instead; and
for `any` together with the groups, which stand there with their name. -/
theorem filter_agrees_named {text : Text} {facets : Facets}
    (plain : ∀ token ∈ Query.tokens text, ¬ Lookalike token)
    (returned : (filter text none).result = .ok facets) :
    facets.terms .quote = ((named text).values "quote".toList).map .text ∧
      facets.terms .text = ((named text).values "text".toList).map .text ∧
      facets.terms .uri = ((named text).values "uri".toList).map .text ∧
      facets.terms .user = ((named text).values "user".toList).map .text ∧
      facets.terms .tag = ((named text).values "tags".toList).map .text ∧
      (∀ value ∈ (named text).values "since".toList,
        Duration.seconds? value = .ok (readSeconds? value)) ∧
      facets.terms .since =
        (((named text).values "since".toList).filterMap readSeconds?).map
          (fun seconds => .number seconds) ∧
      (filter text none).events =
        (((named text).values "since".toList).filter fun value => readSeconds? value = none).map
          (fun value => droppedEvent ("since:".toList ++ value)) ∧
      ∃ words : List Text, facets.terms .any = words.map .text ∧
        words.filter (fun word => ¬ "group:".toList <+: word) =
          (named text).values "any".toList ∧
        words.filter (fun word => "group:".toList <+: word) =
          ((named text).values "group".toList).map fun value => "group:".toList ++ value := by
  obtain ⟨routes, routed⟩ := routed_of_sort_ok returned
  have follow : Follow (Query.terms text) routes := follow_of_routed routed plain
  have terms := terms_of_routed routed returned
  have values (field : Field) (name : Name) (own : valueFacet? field = some name) :
      facets.terms name = ((named text).values (parameterOf field).name).map .text := by
    rw [terms, follow.filterMap_eq fun _ _ => term?_of_value own, values_named, List.map_filterMap]
  have since := values_named .since text
  refine ⟨values .quote .quote rfl, values .text .text rfl, values .uri .uri rfl,
    values .user .user rfl, values .tag .tag rfl, ?_, ?_, ?_, ?_⟩
  · intro value asked
    apply follow.read
    rw [← since]
    exact asked
  · rw [terms, follow.filterMap_eq fun _ _ => term?_of_since]
    rw [← List.map_filterMap, ← List.filterMap_filterMap, ← since]
    rfl
  · rw [Sorted.events, dropped_of_routed routed, follow.droppedOf_eq, ← since, List.map_map]
    rfl
  · refine ⟨(Query.terms text).filterMap wholeWord?, ?_, filter_wholeWords_free text,
      filter_wholeWords_group text⟩
    rw [terms, follow.filterMap_eq fun _ _ => term?_of_any, List.map_filterMap]

/-- A tag, a group, a word with a colon in front, a duration and one that cannot be read. -/
def agreeingSearch : Text := "tag:a group:g :x since:2min since:soon free".toList

theorem filter_agrees_named_mixed :
    (∀ token ∈ Query.tokens agreeingSearch, ¬ Lookalike token) ∧
      (filter agreeingSearch none).result =
        .ok { any := [.text "group:g".toList, .text ":x".toList, .text "free".toList],
              since := [.number 120], tag := [.text "a".toList] } ∧
      ((named agreeingSearch).values "tags".toList).map .text = [Value.text "a".toList] ∧
      (((named agreeingSearch).values "since".toList).filterMap readSeconds?).map
        (fun seconds => Value.number seconds) = [.number 120] := by
  have plain : ∀ token ∈ Query.tokens agreeingSearch, ¬ Lookalike token := by decide +kernel
  have returned : (filter agreeingSearch none).result =
      .ok { any := [.text "group:g".toList, .text ":x".toList, .text "free".toList],
            since := [.number 120], tag := [.text "a".toList] } := by
    decide +kernel
  obtain ⟨_, _, _, _, tag, _, since, _⟩ := filter_agrees_named plain returned
  exact ⟨plain, returned, tag.symm, since.symm⟩

end Facet

end FacetedSearch
