/-
Module: FacetedSearch.Proofs.Web.Limit
Purpose: The limit on the length of queries keeps the service from failing. Only a search for facets
  can be given up, and only for a duration that is too long; such a duration stands in a token, and
  no token is longer than the text it comes from. So there is a longest limit under which no request
  fails, as far as the framework keeps its part: its pages answer, and each address has a path.
Imports: FacetedSearch.Proofs.Facet.Failure, FacetedSearch.Proofs.Query.Conservation,
  FacetedSearch.Proofs.Web.Form, FacetedSearch.Settings, FacetedSearch.Web.Service
Main exports: Web.Framework.PagesAnswer, Web.Framework.PathsFound, Web.GivenUp, Web.GivenUp.fails,
  Web.answers_or_givenUp, Web.exchange_of_path, Web.limit_shields
-/
import FacetedSearch.Proofs.Facet.Failure
import FacetedSearch.Proofs.Query.Conservation
import FacetedSearch.Proofs.Web.Form
import FacetedSearch.Settings
import FacetedSearch.Web.Service

namespace FacetedSearch

namespace Web

/-!
### What the framework promises

The service relies on two things that it does not do itself.
-/

/-- The framework's own pages are answers and no failures. -/
def Framework.PagesAnswer (framework : Framework) : Prop :=
  ∀ request page, framework.page? request = some page → page.status ≠ 500

/-- The framework finds the path in the address of every request, whatever host the request
names. -/
def Framework.PathsFound (framework : Framework) : Prop :=
  ∀ request, ∃ path, framework.path request = .ok path

section Exchange

theorem Outcome.status_logged (outcome : Outcome) (id path method : Text) (latency : Json.Decimal) :
    (outcome.logged id path method latency).response.status = outcome.status := rfl

variable {framework : Framework} {occasion : Occasion} {request : Request}

/-- A request whose address has a path is logged under it. -/
theorem exchange_of_path {path : Text} (found : framework.path request = .ok path) (limit : Nat) :
    exchange framework limit occasion request =
      (handle framework limit request).logged ((givenId? request).getD occasion.freshId) path
        request.method occasion.latency := by
  unfold exchange
  rw [found]

/-- A request whose address has no path is given up, whatever has become of it. -/
theorem exchange_of_no_path {message : Text} (missing : framework.path request = .error message)
    (limit : Nat) :
    exchange framework limit occasion request =
      (handle framework limit request).unlogged message := by
  unfold exchange
  rw [missing]

variable (paths : framework.PathsFound) (limit : Nat)
include paths

theorem exchange_status :
    (exchange framework limit occasion request).response.status =
      (handle framework limit request).status := by
  obtain ⟨path, found⟩ := paths request
  rw [exchange_of_path found, Outcome.status_logged]

theorem exchange_body :
    (exchange framework limit occasion request).response.body =
      (handle framework limit request).body := by
  obtain ⟨path, found⟩ := paths request
  rw [exchange_of_path found]
  rfl

theorem exchange_failure :
    (exchange framework limit occasion request).failure =
      (handle framework limit request).failure.map .tooLong := by
  obtain ⟨path, found⟩ := paths request
  rw [exchange_of_path found]
  rfl

end Exchange

/-!
### Requests that are given up
-/

/-- The outcome is an answer. -/
structure Outcome.Answers (outcome : Outcome) : Prop where
  status : outcome.status ≠ 500
  failure : outcome.failure = none

/-- The outcome is a failure. -/
structure Outcome.Fails (outcome : Outcome) (tooLong : Duration.TooLong) : Prop where
  status : outcome.status = 500
  failure : outcome.failure = some tooLong

/-- The request is a search for facets, of a length that is taken, that asks for a duration which is
too long to be read. -/
structure GivenUp (limit : Nat) (request : Request) (tooLong : Duration.TooLong) : Prop where
  leads : target request.path = .endpoint .facets
  get : request.method = "GET".toList
  fits : (searchText request.query).length ≤ limit
  failed : (Facet.filter (searchText request.query)
    (some (.filter (Form.last? request.query "user".toList)))).result = .error tooLong

theorem handle_endpoint {framework : Framework} {request : Request} {endpoint : Endpoint}
    (leads : target request.path = .endpoint endpoint) (limit : Nat) :
    handle framework limit request =
      if request.method = "GET".toList then endpoint.handle limit request.query
      else { Outcome.detail 405 "Method Not Allowed" with allow := some "GET".toList } := by
  unfold handle
  rw [leads]

theorem handle_get {framework : Framework} {request : Request} {endpoint : Endpoint}
    (leads : target request.path = .endpoint endpoint) (get : request.method = "GET".toList)
    (limit : Nat) : handle framework limit request = endpoint.handle limit request.query := by
  rw [handle_endpoint leads, if_pos get]

/-- What an endpoint answers to a query that is not too long. -/
def Endpoint.answer (query : Text) : Endpoint → Outcome
  | .health => .health
  | .tokens => .tokens (searchText query)
  | .flat => .flat (searchText query)
  | .facets => .facets (searchText query) (Form.last? query "user".toList)

theorem Endpoint.handle_of_fits (endpoint : Endpoint) {limit : Nat} {query : Text}
    (fits : (searchText query).length ≤ limit) :
    endpoint.handle limit query = endpoint.answer query := by
  have short : ¬ limit < (searchText query).length := Nat.not_lt_of_le fits
  cases endpoint <;> simp only [Endpoint.handle, Endpoint.answer, if_neg short]

/-- What becomes of a request that no handler is there for: it is answered by a page of the
framework or turned away, and nothing is logged on the way. -/
theorem handle_elsewhere (framework : Framework) {request : Request}
    (elsewhere : ∀ endpoint, target request.path = .endpoint endpoint →
      request.method ≠ "GET".toList) (limit : Nat) :
    (handle framework limit request).events = [] ∧
      (handle framework limit request).failure = none ∧
      ((handle framework limit request).status ≠ 500 ∨
        ∃ page, framework.page? request = some page ∧
          (handle framework limit request).status = page.status) := by
  unfold handle
  cases leads : target request.path with
  | endpoint endpoint =>
      dsimp only
      rw [if_neg (elsewhere endpoint leads)]
      exact ⟨rfl, rfl, .inl (by decide : 405 ≠ 500)⟩
  | moved path =>
      cases found : framework.page? request with
      | some page => exact ⟨rfl, rfl, .inr ⟨page, rfl, rfl⟩⟩
      | none => exact ⟨rfl, rfl, .inl (by decide : 307 ≠ 500)⟩
  | missing =>
      cases found : framework.page? request with
      | some page => exact ⟨rfl, rfl, .inr ⟨page, rfl, rfl⟩⟩
      | none => exact ⟨rfl, rfl, .inl (by decide : 404 ≠ 500)⟩

theorem answers_elsewhere {framework : Framework} (pages : framework.PagesAnswer)
    {request : Request} (elsewhere : ∀ endpoint, target request.path = .endpoint endpoint →
      request.method ≠ "GET".toList) (limit : Nat) :
    (handle framework limit request).Answers := by
  obtain ⟨_, failure, refused | ⟨page, found, status⟩⟩ :=
    handle_elsewhere framework elsewhere limit
  · exact ⟨refused, failure⟩
  · refine ⟨?_, failure⟩
    rw [status]
    exact pages request page found

theorem answers_tooLong (limit : Nat) (query : Text) : (Outcome.tooLong limit query).Answers :=
  ⟨(by decide : 422 ≠ 500), rfl⟩

theorem Outcome.facets_of_ok {query : Text} {user : Option Text} {facets : Facets}
    (returned : (Facet.filter query (some (.filter user))).result = .ok facets) :
    Outcome.facets query user =
      { body := (Json.obj [Json.member "query" (.str query), Json.member "user" (.ofText? user),
          Json.member "facets" (Answer.facets facets)]).compact
        events := (Facet.filter query (some (.filter user))).events } := by
  simp only [Outcome.facets, returned]

theorem Outcome.facets_of_error {query : Text} {user : Option Text} {tooLong : Duration.TooLong}
    (failed : (Facet.filter query (some (.filter user))).result = .error tooLong) :
    Outcome.facets query user =
      { status := 500, body := failureBody,
        events := (Facet.filter query (some (.filter user))).events, failure := some tooLong } := by
  simp only [Outcome.facets, failed]

theorem facets_answers {query : Text} {user : Option Text} {facets : Facets}
    (returned : (Facet.filter query (some (.filter user))).result = .ok facets) :
    (Outcome.facets query user).Answers := by
  rw [Outcome.facets_of_ok returned]
  exact ⟨(by decide : 200 ≠ 500), rfl⟩

theorem facets_fails {query : Text} {user : Option Text} {tooLong : Duration.TooLong}
    (failed : (Facet.filter query (some (.filter user))).result = .error tooLong) :
    (Outcome.facets query user).Fails tooLong := by
  rw [Outcome.facets_of_error failed]
  exact ⟨rfl, rfl⟩

theorem GivenUp.fails {limit : Nat} {request : Request} {tooLong : Duration.TooLong}
    (givenUp : GivenUp limit request tooLong) (framework : Framework) :
    (handle framework limit request).Fails tooLong := by
  rw [handle_get givenUp.leads givenUp.get, Endpoint.handle_of_fits _ givenUp.fits]
  exact facets_fails givenUp.failed

/-- The endpoints that read no duration always answer. -/
theorem endpoint_answers {endpoint : Endpoint} (other : endpoint ≠ .facets) (limit : Nat)
    (query : Text) : (endpoint.handle limit query).Answers := by
  cases endpoint with
  | facets => exact absurd rfl other
  | health => exact ⟨(by decide : 200 ≠ 500), rfl⟩
  | tokens | flat =>
      simp only [Endpoint.handle]
      split
      · exact answers_tooLong limit _
      · exact ⟨(by decide : 200 ≠ 500), rfl⟩

/-- A request is answered, or it is given up for a search text that has no facets. -/
theorem answers_or_givenUp {framework : Framework} (pages : framework.PagesAnswer) (limit : Nat)
    (request : Request) :
    (handle framework limit request).Answers ∨ ∃ tooLong, GivenUp limit request tooLong := by
  by_cases found : ∃ endpoint, target request.path = .endpoint endpoint ∧
      request.method = "GET".toList
  · obtain ⟨endpoint, leads, get⟩ := found
    rw [handle_get leads get]
    by_cases facets : endpoint = .facets
    · subst facets
      simp only [Endpoint.handle]
      split
      · exact Or.inl (answers_tooLong limit _)
      · next fits =>
          cases result : (Facet.filter (searchText request.query)
              (some (.filter (Form.last? request.query "user".toList)))).result with
          | ok facets => exact Or.inl (facets_answers result)
          | error tooLong => exact Or.inr ⟨tooLong, leads, get, Nat.le_of_not_lt fits, result⟩
    · exact Or.inl (endpoint_answers facets limit request.query)
  · left
    apply answers_elsewhere pages
    intro endpoint leads get
    exact found ⟨endpoint, leads, get⟩

/-!
### The longest harmless limit

A duration that is too long takes more digits than are read, and the name of its field and a colon
before them.
-/

theorem length_of_filter_error {text : Text} {focus : Option Facet.Focus}
    {tooLong : Duration.TooLong} (failed : (Facet.filter text focus).result = .error tooLong) :
    "since:".toList.length + Duration.digitLimit < text.length := by
  obtain ⟨value, mem, unread⟩ := Facet.exists_unread_of_filter_error failed
  obtain ⟨duration, spelled, long, _⟩ := Duration.seconds?_eq_error_iff.1 unread
  calc "since:".toList.length + Duration.digitLimit
      < "since:".toList.length + duration.digits.length := Nat.add_lt_add_left long _
    _ ≤ "since:".toList.length + value.length := Nat.add_le_add_left spelled.length_le _
    _ = ("since:".toList ++ value).length := List.length_append.symm
    _ ≤ text.length := (Query.sublist_of_mem_tokens mem).length_le

/-- A search for a duration of one digit more than are read. -/
def overlongRequest : Request :=
  { path := "/query/facets".toList
    query := "q=since:".toList ++ Facet.overlong }

theorem not_mem_overlong {c : Char} (start : Text) (missing : c ∉ start) (other : c ≠ '1') :
    c ∉ start ++ Facet.overlong := by
  intro mem
  rcases List.mem_append.1 mem with front | back
  · exact missing front
  · exact other (Facet.eq_of_mem_overlong back)

theorem searchText_overlongRequest :
    searchText overlongRequest.query = "since:".toList ++ Facet.overlong := by
  have no_ampersand : '&' ∉ "q=since:".toList ++ Facet.overlong :=
    not_mem_overlong _ (by decide) (by decide)
  have bare : Form.IsBare ("since:".toList ++ Facet.overlong) := by
    constructor
    · exact not_mem_overlong _ (by decide) (by decide)
    · exact not_mem_overlong _ (by decide) (by decide)
  have last : Form.last? overlongRequest.query "q".toList =
      some (Form.component ("since:".toList ++ Facet.overlong)) :=
    Form.last?_single ⟨by decide, by decide⟩ (by decide) no_ampersand
  rw [searchText, last, Option.getD_some, Form.component_of_bare bare]

theorem length_overlongRequest : (searchText overlongRequest.query).length = 4307 := by
  have front : "since:".toList.length = 6 := rfl
  rw [searchText_overlongRequest, List.length_append, Facet.length_overlong, front]

theorem givenUp_overlongRequest {limit : Nat} (fits : 4307 ≤ limit) :
    GivenUp limit overlongRequest ⟨4301⟩ := by
  refine ⟨rfl, rfl, ?_, ?_⟩
  · rw [length_overlongRequest]
    exact fits
  · rw [searchText_overlongRequest]
    exact Facet.filter_overlong _

theorem status_overlongRequest {limit : Nat} (long : 4307 ≤ limit) (framework : Framework)
    (occasion : Occasion) :
    (exchange framework limit occasion overlongRequest).response.status = 500 := by
  cases found : framework.path overlongRequest with
  | error message =>
      rw [exchange_of_no_path found]
      rfl
  | ok path =>
      rw [exchange_of_path found, Outcome.status_logged]
      exact ((givenUp_overlongRequest long).fails framework).status

/-- With a limit of up to 4306 characters every request in any sequence is answered, provided that
the framework's own pages are answers and that each address has a path. That is the longest such
limit: with any longer one a search for facets of plain characters is given up. -/
theorem limit_shields {framework : Framework} (pages : framework.PagesAnswer)
    (paths : framework.PathsFound) (limit : Nat) :
    (limit ≤ 4306 → ∀ requests : List (Occasion × Request),
      ∀ outcome ∈ serve framework limit requests,
        outcome.response.status ≠ 500 ∧ outcome.failure = none) ∧
    (4307 ≤ limit → ∃ request : Request, request.method = "GET".toList ∧
      request.path = "/query/facets".toList ∧ (∀ c ∈ request.query, c.toNat < 128) ∧
        ∀ occasion, (exchange framework limit occasion request).response.status = 500) := by
  constructor
  · intro short requests outcome mem
    obtain ⟨⟨occasion, request⟩, _, rfl⟩ := List.mem_map.1 mem
    dsimp only
    rw [exchange_status paths, exchange_failure paths]
    rcases answers_or_givenUp pages limit request with answers | ⟨tooLong, givenUp⟩
    · exact ⟨answers.status, Option.map_eq_none_iff.2 answers.failure⟩
    · exfalso
      have long : 4306 < (searchText request.query).length :=
        length_of_filter_error givenUp.failed
      exact Nat.not_lt_of_le (givenUp.fits.trans short) long
  · intro long
    refine ⟨overlongRequest, rfl, rfl, ?_, status_overlongRequest long framework⟩
    intro c mem
    rcases List.mem_append.1 mem with front | back
    · have ascii : "q=since:".toList.all (fun c => c.toNat < 128) = true := by decide
      exact of_decide_eq_true (List.all_eq_true.1 ascii c front)
    · rw [Facet.eq_of_mem_overlong back]
      decide

/-- A framework that sends a request for its documentation on when there is a slash behind the
path. -/
def documented : Framework :=
  { Framework.plain with
    page? := fun request =>
      if request.path = "/docs/".toList then
        some
          { status := 307
            body := []
            location :=
              some (movedTo (Framework.plain.origin request) "/docs".toList request.query) }
      else none }

theorem pagesAnswer_documented : documented.PagesAnswer := by
  intro request page found
  simp only [documented, Option.ite_none_right_eq_some, Option.some.injEq] at found
  rw [← found.2]
  exact (by decide : 307 ≠ 500)

theorem pathsFound_documented : documented.PathsFound := fun _ => ⟨_, rfl⟩

/-- Half a millisecond, with a name at hand. -/
def quick : Occasion := ⟨"fresh".toList, ⟨false, 0, .fraction ⟨⟨5, by decide⟩, []⟩ none⟩⟩

/-- The documentation, asked for under a host with a port. -/
def docsRequest : Request :=
  { path := "/docs/".toList, headers := [("Host".toList, "search.example:8000".toList)] }

theorem limit_shields_default :
    documented.PagesAnswer ∧ documented.PathsFound ∧
      (∀ outcome ∈ serve documented (Settings.maxQueryLength {}).toNat
          [(quick, overlongRequest), (quick, docsRequest)],
        outcome.response.status ≠ 500 ∧ outcome.failure = none) ∧
      (handle documented (Settings.maxQueryLength {}).toNat docsRequest).location =
        some "http://search.example:8000/docs".toList ∧
      ∃ request : Request, request.path = "/query/facets".toList ∧
        ∀ occasion, (exchange documented 4307 occasion request).response.status = 500 := by
  refine ⟨pagesAnswer_documented, pathsFound_documented, ?_, by decide +kernel, ?_⟩
  · have short : (Settings.maxQueryLength {}).toNat ≤ 4306 := by decide
    exact (limit_shields pagesAnswer_documented pathsFound_documented _).1 short _
  · obtain ⟨request, _, path, _, fails⟩ :=
      (limit_shields pagesAnswer_documented pathsFound_documented 4307).2 (Nat.le_refl 4307)
    exact ⟨request, path, fails⟩

end Web

end FacetedSearch
