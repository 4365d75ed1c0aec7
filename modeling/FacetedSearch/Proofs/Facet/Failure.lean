/-
Module: FacetedSearch.Proofs.Facet.Failure
Purpose: When a search text has no facets. The only tokens without a route are durations with more
  digits than are read into a number; sorting stops at the first of them, with what was dropped
  before it. Every other search text has facets.
Imports: FacetedSearch.Proofs.Duration, FacetedSearch.Proofs.Facet.Agreement,
  FacetedSearch.Proofs.Query.Plain
Main exports: Facet.route_eq_error_iff, Facet.StopsAfter, Facet.sort_eq_error_iff,
  Facet.filter_digits, Facet.returns_iff_digits_fit
-/
import FacetedSearch.Proofs.Duration
import FacetedSearch.Proofs.Facet.Agreement
import FacetedSearch.Proofs.Query.Plain

namespace FacetedSearch

namespace Facet

open Query

/-!
### One token

A word that stands under `since` without a colon asks for nothing, and nothing spells no duration.
So only the value of a written field can be too long.
-/

theorem body_of_no_colon {token : Text} (no_colon : ':' ∉ token) : body token = [] := by
  have headed : HeadedBy token token.dropLast := .bare no_colon
  rw [headed.body_eq, List.length_dropLast]
  apply List.drop_eq_nil_of_le
  exact Nat.le_add_of_sub_le (Nat.le_refl _)

theorem colon_of_route_error {token : Text} {tooLong : Duration.TooLong}
    (failed : route token = .error tooLong) : ':' ∈ token := by
  by_contra no_colon
  have unread : Duration.seconds? [] = .ok none := rfl
  unfold route at failed
  rw [body_of_no_colon no_colon, unread] at failed
  split at failed <;> cases failed

theorem routeOfTerm_eq_error_iff {term : Term} {tooLong : Duration.TooLong} :
    routeOfTerm term = .error tooLong ↔
      ∃ value, term = .tagged .since value ∧ Duration.seconds? value = .error tooLong := by
  constructor
  · intro failed
    cases term with
    | free text => cases failed
    | tagged field value =>
        cases field with
        | quote | tag | text | uri | user | group => cases failed
        | since =>
            refine ⟨value, rfl, ?_⟩
            simp only [routeOfTerm] at failed
            split at failed
            · next unread =>
                cases failed
                exact unread
            · cases failed
            · cases failed
  · rintro ⟨value, rfl, unread⟩
    simp only [routeOfTerm, unread]

theorem route_eq_error_iff {token : Text} {tooLong : Duration.TooLong} :
    route token = .error tooLong ↔
      ∃ value, token = (Term.tagged .since value).toText ∧
        Duration.seconds? value = .error tooLong := by
  constructor
  · intro failed
    have colon := colon_of_route_error failed
    rw [route_eq_routeOfTerm fun lookalike => lookalike.1 colon] at failed
    obtain ⟨value, since, unread⟩ := routeOfTerm_eq_error_iff.1 failed
    refine ⟨value, ?_, unread⟩
    rw [← since, Term.toText_ofText]
  · rintro ⟨value, rfl, unread⟩
    rw [route_tagged, routeOfTerm_eq_error_iff]
    exact ⟨value, rfl, unread⟩

/-!
### A run over tokens

A run goes through or stops at the first token without a route; what stands behind that token does
not count.
-/

/-- The run stops: routes are found for the tokens up to one that has none. -/
inductive StopsAfter (tooLong : Duration.TooLong) : List Text → List Route → Prop where
  | here {token : Text} {tokens : List Text} (failed : route token = .error tooLong) :
      StopsAfter tooLong (token :: tokens) []
  | later {token : Text} {r : Route} {tokens : List Text} {routes : List Route}
      (first : Routed token r) (rest : StopsAfter tooLong tokens routes) :
      StopsAfter tooLong (token :: tokens) (r :: routes)

theorem sort_of_stopsAfter {tooLong : Duration.TooLong} {tokens : List Text} {routes : List Route}
    (stops : StopsAfter tooLong tokens routes) (facets : Facets) :
    sort tokens facets = ⟨droppedOf tokens routes, .error tooLong⟩ := by
  induction stops generalizing facets with
  | @here token tokens failed =>
      have none_before : droppedOf (token :: tokens) [] = [] := rfl
      rw [none_before]
      simp only [sort, failed]
  | @later token r tokens routes first _ ih =>
      have way : route token = .ok r := route_eq_ok_iff.2 first
      cases r with
      | into name value =>
          rw [droppedOf_cons_into]
          simp only [sort, way, ih]
      | dropped =>
          rw [droppedOf_cons_dropped]
          simp only [sort, way, ih]

theorem routed_or_stopsAfter (tokens : List Text) :
    (∃ routes, List.Forall₂ Routed tokens routes) ∨
      ∃ routes tooLong, StopsAfter tooLong tokens routes := by
  induction tokens with
  | nil => exact Or.inl ⟨[], .nil⟩
  | cons token tokens ih =>
      cases way : route token with
      | error tooLong => exact Or.inr ⟨[], tooLong, .here way⟩
      | ok r =>
          have first : Routed token r := route_eq_ok_iff.1 way
          rcases ih with ⟨routes, rest⟩ | ⟨routes, tooLong, rest⟩
          · exact Or.inl ⟨r :: routes, .cons first rest⟩
          · exact Or.inr ⟨r :: routes, tooLong, .later first rest⟩

theorem sort_eq_error_iff {tokens : List Text} {facets : Facets} {tooLong : Duration.TooLong} :
    (sort tokens facets).result = .error tooLong ↔ ∃ routes, StopsAfter tooLong tokens routes := by
  constructor
  · intro failed
    rcases routed_or_stopsAfter tokens with ⟨routes, routed⟩ | ⟨routes, other, stops⟩
    · rw [sort_of_routed routed] at failed
      cases failed
    · rw [sort_of_stopsAfter stops] at failed
      cases failed
      exact ⟨routes, stops⟩
  · rintro ⟨routes, stops⟩
    rw [sort_of_stopsAfter stops]

theorem exists_routed_of_mem {tokens : List Text} {routes : List Route}
    (routed : List.Forall₂ Routed tokens routes) {token : Text} (mem : token ∈ tokens) :
    ∃ r, Routed token r := by
  induction routed with
  | nil => cases mem
  | cons first _ ih =>
      rcases List.mem_cons.1 mem with rfl | later
      · exact ⟨_, first⟩
      · exact ih later

theorem StopsAfter.exists_failed {tooLong : Duration.TooLong} {tokens : List Text}
    {routes : List Route} (stops : StopsAfter tooLong tokens routes) :
    ∃ token ∈ tokens, route token = .error tooLong := by
  induction stops with
  | here failed => exact ⟨_, List.mem_cons_self, failed⟩
  | later _ _ ih =>
      obtain ⟨token, mem, failed⟩ := ih
      exact ⟨token, List.mem_cons_of_mem _ mem, failed⟩

/-!
### A search text
-/

/-- A search text without facets has a duration that is too long. -/
theorem exists_unread_of_filter_error {text : Text} {focus : Option Focus}
    {tooLong : Duration.TooLong} (failed : (filter text focus).result = .error tooLong) :
    ∃ value, (Term.tagged .since value).toText ∈ tokens text ∧
      Duration.seconds? value = .error tooLong := by
  obtain ⟨routes, stops⟩ := sort_eq_error_iff.1 failed
  obtain ⟨token, mem, token_failed⟩ := stops.exists_failed
  obtain ⟨value, rfl, unread⟩ := route_eq_error_iff.1 token_failed
  exact ⟨value, mem, unread⟩

/-- In a search text with facets every duration can be read. -/
theorem read_of_filter_ok {text : Text} {focus : Option Focus} {facets : Facets}
    (returned : (filter text focus).result = .ok facets) {value : Text}
    (mem : (Term.tagged .since value).toText ∈ tokens text) :
    ∃ reading, Duration.seconds? value = .ok reading := by
  cases reading : Duration.seconds? value with
  | ok seconds => exact ⟨seconds, rfl⟩
  | error tooLong =>
      have no_route := route_eq_error_iff.2 ⟨value, rfl, reading⟩
      obtain ⟨routes, routed⟩ := routed_of_sort_ok returned
      obtain ⟨r, way⟩ := exists_routed_of_mem routed mem
      cases no_route.symm.trans (route_of_routed way)

/-- A search for a duration of digits alone fails as soon as they are too many. -/
theorem filter_digits {digits : Text} (isDigit : ∀ c ∈ digits, c.isDigit = true)
    (long : Duration.digitLimit < digits.length) (focus : Option Focus) :
    (filter (Term.tagged .since digits).toText focus).result = .error ⟨digits.length⟩ := by
  have plain : (Term.tagged .since digits).toText.all isPlain = true := by
    rw [Term.toText, List.all_append, List.all_cons, Bool.and_eq_true, Bool.and_eq_true]
    refine ⟨Field.since.name_plain, rfl, ?_⟩
    exact List.all_eq_true.2 fun c mem => isPlain_of_isDigit (isDigit c mem)
  have single : tokens (Term.tagged .since digits).toText = [(Term.tagged .since digits).toText] :=
    tokens_of_plain plain (List.cons_ne_nil _ _)
  have unread := Duration.seconds?_digits isDigit long
  unfold filter
  rw [single, sort_eq_error_iff]
  exact ⟨[], .here (route_eq_error_iff.2 ⟨digits, rfl, unread⟩)⟩

/-- The tokens and the parameters of a text can always be told; a duration and the facets can, unless
they need a number with more digits than are read. -/
theorem returns_iff_digits_fit (text : Text) (focus : Option Focus) :
    ((∃ reading, Duration.seconds? text = .ok reading) ↔
      ∀ duration : Duration, duration.IsSpelledBy text →
        duration.digits.length ≤ Duration.digitLimit) ∧
    ((∃ facets, (filter text focus).result = .ok facets) ↔
      ∀ value, "since:".toList ++ value ∈ tokens text →
        ∀ duration : Duration, duration.IsSpelledBy value →
          duration.digits.length ≤ Duration.digitLimit) := by
  refine ⟨Duration.returns_iff, ?_⟩
  constructor
  · rintro ⟨facets, returned⟩ value mem
    exact Duration.returns_iff.1 (read_of_filter_ok returned mem)
  · intro fit
    cases outcome : (filter text focus).result with
    | ok facets => exact ⟨facets, rfl⟩
    | error tooLong =>
        obtain ⟨value, mem, unread⟩ := exists_unread_of_filter_error outcome
        obtain ⟨reading, read⟩ := Duration.returns_iff.2 (fit value mem)
        cases unread.symm.trans read

/-- A number of one digit more than are read. -/
def overlong : Text := List.replicate (Duration.digitLimit + 1) '1'

theorem length_overlong : overlong.length = 4301 := List.length_replicate

theorem eq_of_mem_overlong {c : Char} (mem : c ∈ overlong) : c = '1' := List.eq_of_mem_replicate mem

theorem isDigit_of_mem_overlong (c : Char) (mem : c ∈ overlong) : c.isDigit = true := by
  rw [eq_of_mem_overlong mem]
  rfl

theorem digitLimit_lt_overlong : Duration.digitLimit < overlong.length := by
  rw [length_overlong]
  exact Nat.lt_succ_self 4300

theorem filter_overlong (focus : Option Focus) :
    (filter ("since:".toList ++ overlong) focus).result = .error ⟨4301⟩ := by
  have failed := filter_digits isDigit_of_mem_overlong digitLimit_lt_overlong focus
  rwa [length_overlong] at failed

theorem overlong_fails :
    Duration.seconds? overlong = .error ⟨4301⟩ ∧
      (filter ("since:".toList ++ overlong) none).result = .error ⟨4301⟩ := by
  have unread := Duration.seconds?_digits isDigit_of_mem_overlong digitLimit_lt_overlong
  rw [length_overlong] at unread
  exact ⟨unread, filter_overlong none⟩

end Facet

end FacetedSearch
