/-
Module: FacetedSearch.Proofs.Web.Guard
Purpose: The limit on search texts is kept to the character. The text that counts is the last one that
  the query has for it, decoded, whatever else the query holds. One that is too long is refused by an
  answer that shows the text and the limit, and no handler is run for it; every other one comes back
  in its answer as it is.
Imports: FacetedSearch.Proofs.Json.RoundTrip, FacetedSearch.Proofs.LastValue,
  FacetedSearch.Proofs.Web.Account
Main exports: Web.Seeks, Web.Seeks.eq_searchText, Web.Response.Refuses, Web.limit_kept
-/
import FacetedSearch.Proofs.Json.RoundTrip
import FacetedSearch.Proofs.LastValue
import FacetedSearch.Proofs.Web.Account

namespace FacetedSearch

namespace Web

/-!
### The text sought
-/

/-- The text that a query searches for: the value of the last pair named `q`, or nothing when no pair
has this name. -/
inductive Seeks (query : Text) : Text → Prop where
  | last {before after : List (Text × Text)} {text : Text}
      (cut : Form.pairs query = before ++ ("q".toList, text) :: after)
      (last : ∀ later ∈ after, later.1 ≠ "q".toList) : Seeks query text
  | nothing (missing : ∀ pair ∈ Form.pairs query, pair.1 ≠ "q".toList) : Seeks query []

theorem Seeks.eq_searchText {query text : Text} (seeks : Seeks query text) :
    searchText query = text := by
  unfold searchText Form.last?
  cases seeks with
  | @last before after _ cut last =>
      rw [find?_reverse_eq_some_iff.2 ⟨before, after, cut, last⟩, Option.getD_some]
  | nothing missing => rw [find?_reverse_eq_none_iff.2 missing, Option.getD_none]

/-- Pairs of other names do not change the text. -/
theorem searchText_of_filter_eq {first second : Text} {kept : Text × Text → Bool}
    (named : ∀ pair, pair.1 = "q".toList → kept pair = true)
    (same : (Form.pairs first).filter kept = (Form.pairs second).filter kept) :
    searchText first = searchText second := by
  unfold searchText Form.last?
  rw [← find?_reverse_filter named, same, find?_reverse_filter named]

/-!
### Refusals
-/

/-- The response refuses a text for its length, and tells the text and the limit. -/
structure Response.Refuses (response : Response) (limit : Nat) (text : Text) : Prop where
  status : response.status = 422
  body : Json.read? response.body = some (.obj [("detail".toList, .arr [.obj [
    ("type".toList, .str "string_too_long".toList),
    ("loc".toList, .arr [.str "query".toList, .str "q".toList]),
    ("msg".toList, .str (lengthMessage limit)),
    ("input".toList, .str text),
    ("ctx".toList, .obj [("max_length".toList, .int limit)])]])])

theorem Endpoint.handle_of_long {endpoint : Endpoint} (searches : endpoint ≠ .health) {limit : Nat}
    {query : Text} (long : limit < (searchText query).length) :
    endpoint.handle limit query = .tooLong limit (searchText query) := by
  cases endpoint with
  | health => exact absurd rfl searches
  | tokens | flat | facets => exact if_pos long

theorem handle_of_long (framework : Framework) {endpoint : Endpoint}
    (searches : endpoint ≠ .health) {limit : Nat} {request : Request}
    (reads : Reads request endpoint) (long : limit < (searchText request.query).length) :
    handle framework limit request = .tooLong limit (searchText request.query) := by
  rw [handle_get reads.1 reads.2, Endpoint.handle_of_long searches long]

section Refused

variable {framework : Framework} (paths : framework.PathsFound) {endpoint : Endpoint}
  (searches : endpoint ≠ .health) {limit : Nat} {request : Request} (reads : Reads request endpoint)
  (long : limit < (searchText request.query).length) (occasion : Occasion)
include paths searches reads long

theorem refuses_of_long :
    (exchange framework limit occasion request).response.Refuses limit
      (searchText request.query) := by
  have handled := handle_of_long framework searches reads long
  constructor
  · rw [exchange_status paths, handled]
    rfl
  · rw [exchange_body paths, handled]
    exact Json.read?_compact _

/-- A request that is refused leaves its own record and no other: its handler is not run. -/
theorem logs_of_long :
    ∃ id record, RecordsRequest framework occasion request record id 422 ∧
      (exchange framework limit occasion request).events = [record] := by
  obtain ⟨path, found⟩ := paths request
  rw [exchange_of_path found, handle_of_long framework searches reads long]
  exact ⟨_, _, recordsRequest_requestEvent found occasion _ 422, rfl⟩

end Refused

/-!
### Answers
-/

/-- The outcome is an answer that shows a text as its query. -/
structure Outcome.ShowsQuery (outcome : Outcome) (text : Text) : Prop where
  status : outcome.status = 200
  body : ∃ value : Json, outcome.body = value.compact ∧
    value.get? "query".toList = some (.str text)

/-- Whatever is found for a text is answered together with the text; only a search for facets may
have no answer. -/
theorem shows_query_or_fails {endpoint : Endpoint} (searches : endpoint ≠ .health) (query : Text) :
    (endpoint.answer query).ShowsQuery (searchText query) ∨
      endpoint = .facets ∧ (endpoint.answer query).status = 500 := by
  cases endpoint with
  | health => exact absurd rfl searches
  | tokens | flat => exact Or.inl ⟨rfl, _, rfl, rfl⟩
  | facets =>
      rw [Endpoint.answer]
      cases result : (Facet.filter (searchText query)
          (some (.filter (Form.last? query "user".toList)))).result with
      | ok facets =>
          rw [Outcome.facets_of_ok result]
          exact Or.inl ⟨rfl, _, rfl, rfl⟩
      | error tooLong =>
          rw [Outcome.facets_of_error result]
          exact Or.inr ⟨rfl, rfl⟩

theorem handle_of_fits {framework : Framework} {endpoint : Endpoint} {limit : Nat}
    {request : Request} (reads : Reads request endpoint)
    (fits : (searchText request.query).length ≤ limit) :
    handle framework limit request = endpoint.answer request.query := by
  rw [handle_get reads.1 reads.2, endpoint.handle_of_fits fits]

theorem status_eq_422_iff {framework : Framework} (paths : framework.PathsFound)
    {endpoint : Endpoint} (searches : endpoint ≠ .health) {limit : Nat} {request : Request}
    (reads : Reads request endpoint) (occasion : Occasion) :
    (exchange framework limit occasion request).response.status = 422 ↔
      limit < (searchText request.query).length := by
  constructor
  · intro refused
    by_contra fits
    rw [exchange_status paths, handle_of_fits reads (Nat.le_of_not_lt fits)] at refused
    rcases shows_query_or_fails searches request.query with shows | ⟨_, failed⟩
    · rw [shows.status] at refused
      cases refused
    · rw [failed] at refused
      cases refused
  · intro long
    exact (refuses_of_long paths searches reads long occasion).status

theorem reads_path {request : Request} {endpoint : Endpoint} (path : request.path = endpoint.path)
    (get : request.method = "GET".toList) : Reads request endpoint := by
  refine ⟨?_, get⟩
  rw [path]
  cases endpoint <;> decide

/-- A search is refused exactly if its text has more characters than the limit allows; the refusal
shows the text and the limit, and the request leaves no record but its own. Otherwise it is answered,
or given up as a search for facets, and every answer shows the text as it is. A user that the client
looks at does not count: requests that differ in nothing else are refused alike. -/
theorem limit_kept {framework : Framework} (paths : framework.PathsFound) {limit : Nat}
    {request : Request} {endpoint : Endpoint} {text : Text} (searches : endpoint ≠ .health)
    (path : request.path = endpoint.path) (get : request.method = "GET".toList)
    (seeks : Seeks request.query text) (occasion : Occasion) :
    ((exchange framework limit occasion request).response.status = 422 ↔ limit < text.length) ∧
    (limit < text.length →
      (exchange framework limit occasion request).response.Refuses limit text ∧
        ∃ id record, RecordsRequest framework occasion request record id 422 ∧
          (exchange framework limit occasion request).events = [record]) ∧
    (text.length ≤ limit → (exchange framework limit occasion request).response.status = 200 ∨
      endpoint = .facets ∧ (exchange framework limit occasion request).response.status = 500) ∧
    ((exchange framework limit occasion request).response.status = 200 → ∃ value : Json,
      Json.read? (exchange framework limit occasion request).response.body = some value ∧
        value.get? "query".toList = some (.str text)) ∧
    ∀ other : Request, other.path = request.path → other.method = request.method →
      (Form.pairs other.query).filter (·.1 ≠ "user".toList) =
        (Form.pairs request.query).filter (·.1 ≠ "user".toList) →
      ((exchange framework limit occasion other).response.status = 422 ↔
        (exchange framework limit occasion request).response.status = 422) := by
  have reads := reads_path path get
  obtain rfl := seeks.eq_searchText
  have refused_iff : (exchange framework limit occasion request).response.status = 422 ↔
      limit < (searchText request.query).length :=
    status_eq_422_iff paths searches reads occasion
  refine ⟨refused_iff, ?refusal, ?taken, ?shown, ?user⟩
  case refusal =>
    intro long
    exact ⟨refuses_of_long paths searches reads long occasion,
      logs_of_long paths searches reads long occasion⟩
  case taken =>
    intro fits
    rw [exchange_status paths, handle_of_fits reads fits]
    exact (shows_query_or_fails searches request.query).imp_left fun shows => shows.status
  case shown =>
    intro answered
    have fits : (searchText request.query).length ≤ limit := by
      by_contra long
      rw [refused_iff.2 (Nat.lt_of_not_le long)] at answered
      cases answered
    rw [exchange_status paths, handle_of_fits reads fits] at answered
    rcases shows_query_or_fails searches request.query with shows | ⟨_, failed⟩
    · obtain ⟨value, body, query⟩ := shows.body
      refine ⟨value, ?_, query⟩
      rw [exchange_body paths, handle_of_fits reads fits, body, Json.read?_compact]
    · rw [failed] at answered
      cases answered
  case user =>
    intro other same_path same_method same_pairs
    have other_reads : Reads other endpoint :=
      reads_path (same_path.trans path) (same_method.trans get)
    have named : ∀ pair : Text × Text, pair.1 = "q".toList →
        decide (pair.1 ≠ "user".toList) = true := by
      intro pair same
      rw [same]
      decide
    rw [status_eq_422_iff paths searches other_reads, refused_iff,
      searchText_of_filter_eq named same_pairs]

/-- A text given twice, the second time in bad UTF-8 and with a bad escape, and a user in bad UTF-8. -/
def badQuery : Text := "q=a&user=%ff&q=%F8%88+%zz&Q=1".toList

theorem seeks_badQuery : Seeks badQuery "\ufffd\ufffd %zz".toList := by
  have pairs : Form.pairs badQuery = [("q".toList, "a".toList), ("user".toList, "\ufffd".toList)] ++
      ("q".toList, "\ufffd\ufffd %zz".toList) :: [("Q".toList, "1".toList)] := by
    decide +kernel
  exact .last pairs (by decide)

/-- A search for the facets of that text. -/
def badRequest : Request := { path := "/query/facets".toList, query := badQuery }

theorem limit_kept_badRequest :
    documented.PathsFound ∧ Endpoint.facets ≠ .health ∧ badRequest.path = Endpoint.facets.path ∧
      badRequest.method = "GET".toList ∧ Seeks badRequest.query "\ufffd\ufffd %zz".toList ∧
      (exchange documented 5 quick badRequest).response.Refuses 5 "\ufffd\ufffd %zz".toList ∧
      (exchange documented 6 quick badRequest).response.status ≠ 422 := by
  have searches : Endpoint.facets ≠ .health := by decide
  have path : badRequest.path = Endpoint.facets.path := rfl
  have get : badRequest.method = "GET".toList := rfl
  have long : 5 < "\ufffd\ufffd %zz".toList.length := by decide
  have fits : ¬ 6 < "\ufffd\ufffd %zz".toList.length := by decide
  obtain ⟨_, refusal, _⟩ :=
    limit_kept pathsFound_documented searches path get seeks_badQuery quick
  obtain ⟨refused_iff, _⟩ :=
    limit_kept pathsFound_documented searches path get seeks_badQuery quick
  refine ⟨pathsFound_documented, searches, path, get, seeks_badQuery, (refusal long).1, ?_⟩
  exact fun refused => fits (refused_iff.1 refused)

end Web

end FacetedSearch
