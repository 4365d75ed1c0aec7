/-
Module: FacetedSearch.Proofs.Facet.Routing
Purpose: Sorting tokens into facets, told token by token. Each token has one route, which its
  heading decides; the facets after a run are the facets before it with the terms of the routes
  added in order, and the tokens left out are those whose route says so. Nothing is lost and nothing
  counts twice.
Imports: FacetedSearch.Facet.Audit
Main exports: Facet.HeadedBy, Facet.Routed, Facet.route_eq_ok_iff, Facet.sort_of_routed,
  Facet.routed_of_sort_ok, Facet.filter_routes
-/
import Mathlib
import FacetedSearch.Facet.Audit

namespace FacetedSearch

namespace Facet

/-- The heading of a token: the part before the first colon, or all but the last character. -/
inductive HeadedBy : Text → Text → Prop where
  | colon {name value : Text} (first : ':' ∉ name) : HeadedBy (name ++ ':' :: value) name
  | bare {token : Text} (no_colon : ':' ∉ token) : HeadedBy token token.dropLast

/-- The facets that take the values of the fields named like them as they are. -/
def valueFacets : List Name := [.quote, .tag, .text, .uri, .user]

/-- The rules by which a token finds its way. The value of a token starts behind its heading and one
character more. -/
inductive Routed : Text → Route → Prop where
  | value {token : Text} {name : Name} (headed : HeadedBy token name.label)
      (direct : name ∈ valueFacets) :
      Routed token (.into name (.text (token.drop (name.label.length + 1))))
  | since {token : Text} {seconds : Nat} (headed : HeadedBy token Name.since.label)
      (read : Duration.seconds? (token.drop (Name.since.label.length + 1)) = .ok (some seconds)) :
      Routed token (.into .since (.number seconds))
  | dropped {token : Text} (headed : HeadedBy token Name.since.label)
      (unread : Duration.seconds? (token.drop (Name.since.label.length + 1)) = .ok none) :
      Routed token .dropped
  | any {token heading : Text} (headed : HeadedBy token heading)
      (unnamed : ∀ name ∈ Name.since :: valueFacets, heading ≠ name.label) :
      Routed token (.into .any (.text token))

/-!
### One token

The rules and the function agree: the heading of a token is unique, and the names of fields are
those of the facets but for `group`, which has no facet.
-/

theorem headedBy_heading (token : Text) : HeadedBy token (heading token) := by
  unfold heading
  cases cut : token.cut? ':' with
  | none => exact .bare (Text.cut?_eq_none_iff.1 cut)
  | some sides =>
      obtain ⟨name, value⟩ := sides
      obtain ⟨rfl, first⟩ := Text.cut?_eq_some_iff.1 cut
      exact .colon first

theorem HeadedBy.eq_heading {token name : Text} (headed : HeadedBy token name) :
    name = heading token := by
  unfold heading
  cases headed with
  | @colon name value first =>
      have cut : (name ++ ':' :: value).cut? ':' = some (name, value) :=
        Text.cut?_eq_some_iff.2 ⟨rfl, first⟩
      rw [cut]
  | bare no_colon => rw [Text.cut?_eq_none_iff.2 no_colon]

theorem HeadedBy.body_eq {token name : Text} (headed : HeadedBy token name) :
    body token = token.drop (name.length + 1) := by
  unfold body
  rw [← headed.eq_heading]

theorem routed_value {token : Text} {name : Name} (direct : name ∈ valueFacets)
    (named : heading token = name.label) : Routed token (.into name (.text (body token))) := by
  have headed := headedBy_heading token
  rw [named] at headed
  rw [headed.body_eq]
  exact .value headed direct

theorem routed_any {token : Text}
    (unnamed : ∀ name ∈ Name.since :: valueFacets, heading token ≠ name.label) :
    Routed token (.into .any (.text token)) :=
  .any (headedBy_heading token) unnamed

/-- A heading names no facet that takes values if it is no field's name, or the name of `group`. -/
theorem unnamed_iff {text : Text} :
    (∀ name ∈ Name.since :: valueFacets, text ≠ name.label) ↔
      Query.Field.ofName? text = none ∨ Query.Field.ofName? text = some .group := by
  constructor
  · intro unnamed
    cases found : Query.Field.ofName? text with
    | none => exact Or.inl rfl
    | some field =>
        have named : text = field.name := Query.Field.ofName?_eq_some_iff.1 found
        cases field with
        | group => exact Or.inr rfl
        | quote => exact absurd named (unnamed .quote (by decide))
        | since => exact absurd named (unnamed .since (by decide))
        | tag => exact absurd named (unnamed .tag (by decide))
        | text => exact absurd named (unnamed .text (by decide))
        | uri => exact absurd named (unnamed .uri (by decide))
        | user => exact absurd named (unnamed .user (by decide))
  · intro found name listed same
    rw [same] at found
    revert found
    revert listed
    cases name <;> decide

theorem route_since {token : Text} (named : heading token = Name.since.label) :
    route token =
      match Duration.seconds? (body token) with
      | .error tooLong => .error tooLong
      | .ok none => .ok .dropped
      | .ok (some seconds) => .ok (.into .since (.number seconds)) := by
  unfold route
  rw [named]
  rfl

theorem routed_of_route {token : Text} {r : Route} (h : route token = .ok r) : Routed token r := by
  cases found : Query.Field.ofName? (heading token) with
  | none =>
      simp only [route, found] at h
      cases h
      exact routed_any (unnamed_iff.2 (Or.inl found))
  | some field =>
      have named : heading token = field.name := Query.Field.ofName?_eq_some_iff.1 found
      cases field with
      | since =>
          have headed := headedBy_heading token
          rw [named] at headed
          rw [route_since named, headed.body_eq] at h
          split at h
          · cases h
          · next unread =>
              cases h
              exact .dropped headed unread
          · next read =>
              cases h
              exact .since headed read
      | group =>
          simp only [route, found] at h
          cases h
          exact routed_any (unnamed_iff.2 (Or.inr found))
      | quote | tag | text | uri | user =>
          simp only [route, found] at h
          cases h
          exact routed_value (by decide) named

theorem route_of_routed {token : Text} {r : Route} (h : Routed token r) : route token = .ok r := by
  cases h with
  | @value name headed direct =>
      have named : heading token = name.label := headed.eq_heading.symm
      rw [← headed.body_eq]
      unfold route
      rw [named]
      simp only [valueFacets, List.mem_cons, List.not_mem_nil, or_false] at direct
      rcases direct with rfl | rfl | rfl | rfl | rfl <;> rfl
  | since headed read => rw [route_since headed.eq_heading.symm, headed.body_eq, read]
  | dropped headed unread => rw [route_since headed.eq_heading.symm, headed.body_eq, unread]
  | any headed unnamed =>
      rw [headed.eq_heading] at unnamed
      rcases unnamed_iff.1 unnamed with found | found
      · simp only [route, found]
      · simp only [route, found]

theorem route_eq_ok_iff {token : Text} {r : Route} : route token = .ok r ↔ Routed token r :=
  ⟨routed_of_route, route_of_routed⟩

/-!
### A run over tokens

Following a route adds its term, if it has one, at the end of one facet.  A run follows the routes
of its tokens one after the other; it goes through exactly if each token has a route.
-/

/-- The term that a route brings to a facet. -/
def Route.term? (name : Name) : Route → Option Value
  | .into target value => if target = name then some value else none
  | .dropped => none

def Route.follow (facets : Facets) : Route → Facets
  | .into name value => facets.add name value
  | .dropped => facets

/-- The tokens whose route is to be dropped. -/
def droppedOf (tokens : List Text) (routes : List Route) : List Text :=
  ((tokens.zip routes).filter fun pair => pair.2 = .dropped).map Prod.fst

theorem droppedOf_cons_into (token : Text) (tokens : List Text) (name : Name) (value : Value)
    (routes : List Route) :
    droppedOf (token :: tokens) (.into name value :: routes) = droppedOf tokens routes := by
  simp [droppedOf]

theorem droppedOf_cons_dropped (token : Text) (tokens : List Text) (routes : List Route) :
    droppedOf (token :: tokens) (.dropped :: routes) = token :: droppedOf tokens routes := by
  simp [droppedOf]

theorem terms_follow (facets : Facets) (r : Route) (name : Name) :
    (r.follow facets).terms name = facets.terms name ++ (r.term? name).toList := by
  cases r with
  | dropped => simp [Route.follow, Route.term?]
  | into target value =>
      rw [Route.follow, Facets.terms_add, Route.term?]
      split <;> rfl

theorem terms_foldl_follow (routes : List Route) (facets : Facets) (name : Name) :
    (routes.foldl Route.follow facets).terms name =
      facets.terms name ++ routes.filterMap (Route.term? name) := by
  induction routes generalizing facets with
  | nil => simp
  | cons r routes ih =>
      rw [List.foldl_cons, ih, terms_follow, List.append_assoc, List.filterMap_cons]
      cases r.term? name <;> rfl

theorem sort_of_routed {tokens : List Text} {routes : List Route}
    (routed : List.Forall₂ Routed tokens routes) (facets : Facets) :
    sort tokens facets = ⟨droppedOf tokens routes, .ok (routes.foldl Route.follow facets)⟩ := by
  induction routed generalizing facets with
  | nil => rfl
  | @cons token r tokens routes first rest ih =>
      have way : route token = .ok r := route_eq_ok_iff.2 first
      cases r with
      | into name value => simp [sort, way, ih, droppedOf_cons_into, Route.follow]
      | dropped => simp [sort, way, ih, droppedOf_cons_dropped, Route.follow]

theorem routed_of_sort_ok {tokens : List Text} {facets result : Facets}
    (returned : (sort tokens facets).result = .ok result) :
    ∃ routes, List.Forall₂ Routed tokens routes := by
  induction tokens generalizing facets with
  | nil => exact ⟨[], .nil⟩
  | cons token tokens ih =>
      unfold sort at returned
      split at returned
      · cases returned
      · next name value way =>
          obtain ⟨routes, rest⟩ := ih returned
          exact ⟨_ :: routes, .cons (route_eq_ok_iff.1 way) rest⟩
      · next way =>
          obtain ⟨routes, rest⟩ := ih returned
          exact ⟨_ :: routes, .cons (route_eq_ok_iff.1 way) rest⟩

theorem routes_unique {tokens : List Text} {first second : List Route}
    (one : List.Forall₂ Routed tokens first) (two : List.Forall₂ Routed tokens second) :
    first = second := by
  induction one generalizing second with
  | nil =>
      cases two
      rfl
  | cons head _ ih =>
      cases two with
      | cons head' rest' =>
          have same := (route_eq_ok_iff.2 head).symm.trans (route_eq_ok_iff.2 head')
          rw [Except.ok.inj same, ih rest']

/-!
### Counting
-/

/-- The number of all terms. -/
def termCount (facets : Facets) : Nat := (Name.all.map fun name => (facets.terms name).length).sum

theorem termCount_add (facets : Facets) (name : Name) (value : Value) :
    termCount (facets.add name value) = termCount facets + 1 := by
  simp only [termCount, Name.all, List.map_cons, List.map_nil, List.sum_cons, List.sum_nil,
    Facets.terms_add, List.length_append]
  cases name <;> simp <;> omega

theorem termCount_foldl_follow {tokens : List Text} {routes : List Route}
    (routed : List.Forall₂ Routed tokens routes) (facets : Facets) :
    termCount (routes.foldl Route.follow facets) + (droppedOf tokens routes).length =
      termCount facets + tokens.length := by
  induction routed generalizing facets with
  | nil => rfl
  | @cons token r tokens routes _ _ ih =>
      have rest := ih (r.follow facets)
      rw [List.foldl_cons, List.length_cons]
      cases r with
      | into name value =>
          rw [droppedOf_cons_into, rest, Route.follow, termCount_add]
          omega
      | dropped =>
          rw [droppedOf_cons_dropped, List.length_cons, ← Nat.add_assoc, rest, Route.follow]
          rfl

/-!
### A search text
-/

/-- The user that a focus names, if the name is not empty. -/
def focusUser? (focus : Option Focus) : Option Text := (focus.bind Focus.user?).filter (· ≠ [])

theorem terms_start (focus : Option Focus) (name : Name) :
    (start focus).terms name =
      if name = .user then (focusUser? focus).toList.map .text else [] := by
  unfold start focusUser?
  cases focus.bind Focus.user? with
  | none => cases name <;> rfl
  | some user =>
      cases user with
      | nil => cases name <;> rfl
      | cons c rest => cases name <;> rfl

theorem termCount_start (focus : Option Focus) :
    termCount (start focus) = if (focusUser? focus).isSome then 1 else 0 := by
  unfold termCount
  simp only [terms_start]
  cases focusUser? focus <;> rfl

/-- Whenever a search text has facets, each of its tokens has just one route; the terms of every
facet are those of the routes in the order of the tokens, behind the user looked at; what is logged
is what the routes drop; and every token counts once. -/
theorem filter_routes {text : Text} {focus : Option Focus} {facets : Facets}
    (returned : (filter text focus).result = .ok facets) :
    ∃ routes : List Route,
      List.Forall₂ Routed (Query.tokens text) routes ∧
        (∀ other, List.Forall₂ Routed (Query.tokens text) other → other = routes) ∧
        (∀ name, facets.terms name =
          (if name = .user then (focusUser? focus).toList.map .text else []) ++
            routes.filterMap (Route.term? name)) ∧
        (filter text focus).events = (droppedOf (Query.tokens text) routes).map droppedEvent ∧
        facets.toList.map (fun entry => (entry.1.label, entry.2.operator.label, entry.2.terms)) =
          [("any".toList, "and".toList, facets.terms .any),
            ("quote".toList, "and".toList, facets.terms .quote),
            ("since".toList, "and".toList, facets.terms .since),
            ("tag".toList, "and".toList, facets.terms .tag),
            ("text".toList, "and".toList, facets.terms .text),
            ("uri".toList, "or".toList, facets.terms .uri),
            ("user".toList, "or".toList, facets.terms .user)] ∧
        termCount facets + (filter text focus).events.length =
          (Query.tokens text).length + if (focusUser? focus).isSome then 1 else 0 := by
  obtain ⟨routes, routed⟩ := routed_of_sort_ok returned
  have run := sort_of_routed routed (start focus)
  have reached : routes.foldl Route.follow (start focus) = facets := by
    unfold filter at returned
    rw [run] at returned
    exact Except.ok.inj returned
  have logged :
      (filter text focus).events = (droppedOf (Query.tokens text) routes).map droppedEvent := by
    unfold filter Sorted.events
    rw [run]
  refine ⟨routes, routed, ?_, ?_, logged, rfl, ?_⟩
  · intro other other_routed
    exact routes_unique other_routed routed
  · intro name
    rw [← reached, terms_foldl_follow, terms_start]
  · rw [logged, List.length_map, ← reached, termCount_foldl_follow routed, termCount_start,
      Nat.add_comm]

/-- A word that stands under `user`, a duration, one that cannot be read, and a group. -/
def mixedSearch : Text := "users since:2min since:soon group:g".toList

theorem filter_routes_mixed :
    (filter mixedSearch (some (.filter (some "al".toList)))).result =
        .ok { any := [.text "group:g".toList], since := [.number 120],
              user := [.text "al".toList, .text []] } ∧
      ∃ routes : List Route,
        List.Forall₂ Routed (Query.tokens mixedSearch) routes ∧
          routes.filterMap (Route.term? .user) = [.text []] := by
  have returned : (filter mixedSearch (some (.filter (some "al".toList)))).result =
      .ok { any := [.text "group:g".toList], since := [.number 120],
            user := [.text "al".toList, .text []] } := by
    decide +kernel
  obtain ⟨routes, routed, _, terms, _⟩ := filter_routes returned
  refine ⟨returned, routes, routed, ?_⟩
  have behind_focus : [Value.text "al".toList, .text []] =
      [.text "al".toList] ++ routes.filterMap (Route.term? .user) := terms .user
  exact (List.cons.inj behind_focus).2.symm

end Facet

end FacetedSearch
