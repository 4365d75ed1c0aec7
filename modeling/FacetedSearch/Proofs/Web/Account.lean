/-
Module: FacetedSearch.Proofs.Web.Account
Purpose: Every request is accounted for once. What is logged about a request is what its handler
  logs, then one record of the request with the status of its response, and then the error if it was
  given up; the name in the record is the one that the response carries. This is so for the
  framework's own pages too. Only a request whose address has no path would leave no record.
Imports: FacetedSearch.Proofs.Facet.Audit, FacetedSearch.Proofs.Grouping,
  FacetedSearch.Proofs.Web.Limit
Main exports: Web.Reads, Web.HandlerLogs, Web.handlerLogs_handle, Web.Accounted,
  Web.requests_accounted
-/
import FacetedSearch.Proofs.Facet.Audit
import FacetedSearch.Proofs.Grouping
import FacetedSearch.Proofs.Web.Limit

namespace FacetedSearch

namespace Web

/-!
### What a handler logs

Only two handlers log anything: that of the parameters counts the tokens, that of the facets tells
which tokens it drops.
-/

/-- The request is one that the handler of an endpoint is there for. -/
def Reads (request : Request) (endpoint : Endpoint) : Prop :=
  target request.path = .endpoint endpoint ∧ request.method = "GET".toList

/-- The record of a count of tokens. -/
def countEvent (count : Nat) : Log.Event :=
  { logger := "annoquery.api.main".toList
    level := Log.Level.debug
    message := "flat_query".toList
    attributes := [("token_count".toList, .int count)] }

/-- What the handler of a request logs when the request is answered with a status. -/
inductive HandlerLogs (request : Request) : Nat → List Log.Event → Prop where
  | flat (reads : Reads request .flat) :
      HandlerLogs request 200 [countEvent (Query.tokens (searchText request.query)).length]
  | facets (reads : Reads request .facets)
      (routed : ∀ token ∈ Query.tokens (searchText request.query), Facet.HasRoute token) :
      HandlerLogs request 200
        ((Facet.dropped (Query.tokens (searchText request.query))).map Facet.droppedEvent)
  | givenUp {before after : List Text} {offending : Text} {tooLong : Duration.TooLong}
      (reads : Reads request .facets)
      (cut : Query.tokens (searchText request.query) = before ++ offending :: after)
      (routed : ∀ token ∈ before, Facet.HasRoute token)
      (failed : Facet.route offending = .error tooLong) :
      HandlerLogs request 500 ((Facet.dropped before).map Facet.droppedEvent)
  | nothing {status : Nat} (not_flat : status = 200 → ¬ Reads request .flat)
      (not_facets : status = 200 ∨ status = 500 → ¬ Reads request .facets) :
      HandlerLogs request status []

theorem Reads.unique {request : Request} {first second : Endpoint} (one : Reads request first)
    (two : Reads request second) : first = second := by
  have same := one.1.symm.trans two.1
  cases same
  rfl

theorem flatEvent_parameters (text : Text) :
    flatEvent (Backend.parameters text) = countEvent (Query.tokens text).length := by
  have size : (Backend.parameters text).size = (Query.tokens text).length := by
    unfold Backend.parameters
    rw [Grouping.size_ofPairs, List.length_map]
  unfold flatEvent
  rw [size]
  rfl

/-- A handler is not run for a query that is too long. -/
theorem logs_refused (request : Request) : HandlerLogs request 422 [] := by
  apply HandlerLogs.nothing
  · intro answered
    exact absurd answered (by decide)
  · intro answered_or_failed
    exact absurd answered_or_failed (by decide)

theorem logs_elsewhere (framework : Framework) {request : Request}
    (elsewhere : ∀ endpoint, ¬ Reads request endpoint) (limit : Nat) :
    HandlerLogs request (handle framework limit request).status
      (handle framework limit request).events := by
  have other : ∀ endpoint, target request.path = .endpoint endpoint →
      request.method ≠ "GET".toList := by
    intro endpoint leads get
    exact elsewhere endpoint ⟨leads, get⟩
  rw [(handle_elsewhere framework other limit).1]
  -- A page may well be answered with success, but no handler of an endpoint is run for it.
  exact .nothing (fun _ => elsewhere .flat) (fun _ => elsewhere .facets)

theorem logs_answer {request : Request} {endpoint : Endpoint} (reads : Reads request endpoint) :
    HandlerLogs request (endpoint.answer request.query).status
      (endpoint.answer request.query).events := by
  cases endpoint with
  | health | tokens =>
      apply HandlerLogs.nothing
      · intro _ flat
        cases reads.unique flat
      · intro _ facets
        cases reads.unique facets
  | flat =>
      have logged := HandlerLogs.flat reads
      rw [← flatEvent_parameters] at logged
      exact logged
  | facets =>
      cases result : (Facet.filter (searchText request.query)
          (some (.filter (Form.last? request.query "user".toList)))).result with
      | ok facets =>
          obtain ⟨routed, events⟩ := Facet.events_of_ok result
          rw [Endpoint.answer, Outcome.facets_of_ok result]
          dsimp only
          rw [events]
          exact .facets reads routed
      | error tooLong =>
          obtain ⟨before, offending, after, cut, routed, failed, events⟩ :=
            Facet.events_of_error result
          rw [Endpoint.answer, Outcome.facets_of_error result]
          dsimp only
          rw [events]
          exact .givenUp reads cut routed failed

theorem Endpoint.handle_cases (endpoint : Endpoint) (limit : Nat) (query : Text) :
    endpoint.handle limit query = .tooLong limit (searchText query) ∨
      endpoint.handle limit query = endpoint.answer query := by
  by_cases fits : (searchText query).length ≤ limit
  · exact Or.inr (endpoint.handle_of_fits fits)
  · cases endpoint with
    | health => exact Or.inr rfl
    | tokens | flat | facets => exact Or.inl (if_pos (Nat.lt_of_not_le fits))

theorem handlerLogs_handle (framework : Framework) (limit : Nat) (request : Request) :
    HandlerLogs request (handle framework limit request).status
      (handle framework limit request).events := by
  by_cases found : ∃ endpoint, Reads request endpoint
  · obtain ⟨endpoint, reads⟩ := found
    rw [handle_get reads.1 reads.2]
    rcases endpoint.handle_cases limit request.query with refused | answered
    · rw [refused]
      exact logs_refused request
    · rw [answered]
      exact logs_answer reads
  · exact logs_elsewhere framework (not_exists.1 found) limit

/-!
### Accounting

The record of a request follows whatever its handler has logged, and the record of an error follows
that, so that each request has just one record of its own in the log.
-/

/-- The header that names a request. -/
def namesRequest (header : Text × Text) : Bool :=
  header.1.map Char.toLower == "x-request-id".toList

/-- The name of a request: the first one that the client gave it, if it is not empty, or a fresh
one. -/
inductive IsNamed (freshId : Text) (headers : List (Text × Text)) : Text → Prop where
  | given {id : Text} (first : (headers.find? namesRequest).map Prod.snd = some id)
      (not_empty : id ≠ []) : IsNamed freshId headers id
  | fresh (nameless : ∀ id, (headers.find? namesRequest).map Prod.snd = some id → id = []) :
      IsNamed freshId headers freshId

/-- The record is that of a request, under a name and with the status that it was answered with. -/
structure RecordsRequest (framework : Framework) (occasion : Occasion) (request : Request)
    (record : Log.Event) (id : Text) (status : Nat) : Prop where
  logger : record.logger = "annoquery.api".toList
  level : record.level = 20
  message : record.message = "request".toList
  request_id : record.attribute? "request_id".toList = some (.str id)
  path : ∃ path, framework.path request = .ok path ∧
    record.attribute? "path".toList = some (.str path)
  method : record.attribute? "method".toList = some (.str request.method)
  status_code : record.attribute? "status_code".toList = some (.int status)
  latency_ms : record.attribute? "latency_ms".toList = some (.decimal occasion.latency)

/-- What is logged about the error that a request was given up for, if it was. -/
inductive FailureLogs : Nat → List Log.Event → Prop where
  | answered {status : Nat} (not_failed : status ≠ 500) : FailureLogs status []
  | failed {record : Log.Event} (level : record.level = 40)
      (message : record.message = "unhandled_exception".toList) : FailureLogs 500 [record]

/-- The request is accounted for: its handler's records, its own record and that of its error are
logged in this order, under the name that the response carries unless the request was given up. -/
inductive Accounted (framework : Framework) (occasion : Occasion) (request : Request) :
    Exchange → Prop where
  | mk {outcome : Exchange} {id : Text} {handler failures : List Log.Event} {record : Log.Event}
      (named : IsNamed occasion.freshId request.headers id)
      (handled : HandlerLogs request outcome.response.status handler)
      (recorded :
        RecordsRequest framework occasion request record id outcome.response.status)
      (failed : FailureLogs outcome.response.status failures)
      (logged : outcome.events = handler ++ record :: failures)
      (carried : outcome.response.requestId =
        if outcome.response.status = 500 then none else some id) :
      Accounted framework occasion request outcome

theorem givenId?_eq_filter (request : Request) :
    givenId? request = ((request.headers.find? namesRequest).map Prod.snd).filter (· ≠ []) := rfl

theorem isNamed_givenId? (freshId : Text) (request : Request) :
    IsNamed freshId request.headers ((givenId? request).getD freshId) := by
  rw [givenId?_eq_filter]
  cases first : (request.headers.find? namesRequest).map Prod.snd with
  | none =>
      apply IsNamed.fresh
      intro id found
      rw [first] at found
      cases found
  | some id =>
      by_cases empty : id = []
      · subst empty
        apply IsNamed.fresh
        intro id found
        rw [first] at found
        exact (Option.some.inj found).symm
      · rw [Option.filter_some, if_pos (decide_eq_true empty)]
        exact .given first empty

theorem recordsRequest_requestEvent {framework : Framework} {request : Request} {path : Text}
    (found : framework.path request = .ok path) (occasion : Occasion) (id : Text) (status : Nat) :
    RecordsRequest framework occasion request
      (requestEvent id path request.method status occasion.latency) id status where
  logger := rfl
  level := rfl
  message := rfl
  request_id := rfl
  path := ⟨path, found, rfl⟩
  method := rfl
  status_code := rfl
  latency_ms := rfl

theorem failureLogs_of_handle {framework : Framework} (pages : framework.PagesAnswer) (limit : Nat)
    (request : Request) :
    FailureLogs (handle framework limit request).status
        ((handle framework limit request).failure.map fun _ => failureEvent).toList ∧
      ((handle framework limit request).failure.isSome ↔
        (handle framework limit request).status = 500) := by
  rcases answers_or_givenUp pages limit request with answers | ⟨tooLong, givenUp⟩
  · rw [answers.failure]
    refine ⟨.answered answers.status, ?_⟩
    exact iff_of_false Bool.false_ne_true answers.status
  · have fails := givenUp.fails framework
    rw [fails.failure, fails.status]
    exact ⟨.failed rfl rfl, iff_of_true rfl rfl⟩

theorem accounted_exchange {framework : Framework} (pages : framework.PagesAnswer)
    (paths : framework.PathsFound) (limit : Nat) (occasion : Occasion) (request : Request) :
    Accounted framework occasion request (exchange framework limit occasion request) := by
  obtain ⟨path, found⟩ := paths request
  obtain ⟨failed, failed_iff⟩ := failureLogs_of_handle pages limit request
  rw [exchange_of_path found]
  refine .mk (isNamed_givenId? occasion.freshId request)
    (handlerLogs_handle framework limit request) (recordsRequest_requestEvent found occasion _ _)
    failed rfl ?_
  simp only [Outcome.logged, failed_iff]

/-!
No other record passes for the record of a request.
-/

/-- The record says that it is one of a request. -/
def isOfRequest (event : Log.Event) : Bool := event.message = "request".toList

theorem RecordsRequest.isOfRequest {framework : Framework} {occasion : Occasion} {request : Request}
    {record : Log.Event} {id : Text} {status : Nat}
    (recorded : RecordsRequest framework occasion request record id status) :
    isOfRequest record = true :=
  decide_eq_true recorded.message

theorem HandlerLogs.filter_eq_nil {request : Request} {status : Nat} {handler : List Log.Event}
    (handled : HandlerLogs request status handler) : handler.filter isOfRequest = [] := by
  have dropped : ∀ tokens : List Text,
      (tokens.map Facet.droppedEvent).filter isOfRequest = [] := by
    intro tokens
    rw [List.filter_eq_nil_iff]
    intro event mem
    obtain ⟨token, _, rfl⟩ := List.mem_map.1 mem
    exact Bool.false_ne_true
  cases handled with
  | flat reads => rfl
  | facets reads routed => exact dropped _
  | givenUp reads cut routed failed => exact dropped _
  | nothing not_flat not_facets => rfl

theorem FailureLogs.filter_eq_nil {status : Nat} {failures : List Log.Event}
    (failed : FailureLogs status failures) : failures.filter isOfRequest = [] := by
  cases failed with
  | answered not_failed => rfl
  | @failed record level message =>
      have other : ¬ isOfRequest record = true := by
        unfold isOfRequest
        rw [message]
        decide
      rw [List.filter_cons_of_neg other, List.filter_nil]

theorem Accounted.countP_eq {framework : Framework} {occasion : Occasion} {request : Request}
    {outcome : Exchange} (accounted : Accounted framework occasion request outcome) :
    outcome.events.countP isOfRequest = 1 := by
  obtain ⟨_, handled, recorded, failed, logged, _⟩ := accounted
  rw [logged, List.countP_eq_length_filter, List.filter_append, handled.filter_eq_nil,
    List.filter_cons_of_pos recorded.isOfRequest, failed.filter_eq_nil]
  rfl

/-- A request whose address has no path has no record, though its handler has been run. -/
theorem countP_of_no_path {framework : Framework} {request : Request} {message : Text}
    (missing : framework.path request = .error message) (limit : Nat) (occasion : Occasion) :
    (exchange framework limit occasion request).response.status = 500 ∧
      (exchange framework limit occasion request).events.countP isOfRequest = 0 := by
  have handled := handlerLogs_handle framework limit request
  have failed : FailureLogs 500 [failureEvent] := .failed rfl rfl
  rw [exchange_of_no_path missing]
  refine ⟨rfl, ?_⟩
  change ((handle framework limit request).events ++ [failureEvent]).countP isOfRequest = 0
  rw [List.countP_eq_length_filter, List.filter_append, handled.filter_eq_nil, failed.filter_eq_nil]
  rfl

/-- In any sequence of requests each one is accounted for, and the log of all of them has as many
records of requests as there are requests. The framework's own pages are to be answers, and each
address is to have a path. -/
theorem requests_accounted {framework : Framework} (pages : framework.PagesAnswer)
    (paths : framework.PathsFound) (limit : Nat) (requests : List (Occasion × Request)) :
    List.Forall₂ (fun given outcome => Accounted framework given.1 given.2 outcome) requests
        (serve framework limit requests) ∧
      ((serve framework limit requests).flatMap Exchange.events).countP isOfRequest =
        requests.length := by
  induction requests with
  | nil => exact ⟨.nil, rfl⟩
  | cons given requests ih =>
      have here := accounted_exchange pages paths limit given.1 given.2
      refine ⟨.cons here ih.1, ?_⟩
      have whole : serve framework limit (given :: requests) =
          exchange framework limit given.1 given.2 :: serve framework limit requests := rfl
      rw [whole, List.flatMap_cons, List.countP_append, here.countP_eq, ih.2, List.length_cons,
        Nat.add_comm]

/-- A search that drops a token, under a name that the client gave it. -/
def droppingRequest : Request :=
  { path := "/query/facets".toList
    query := "q=since:soon".toList
    headers := [("X-Request-Id".toList, "r".toList)] }

theorem requests_accounted_docs :
    documented.PagesAnswer ∧ documented.PathsFound ∧
      List.Forall₂ (fun given outcome => Accounted documented given.1 given.2 outcome)
        [(quick, docsRequest), (quick, droppingRequest)]
        (serve documented 2000 [(quick, docsRequest), (quick, droppingRequest)]) ∧
      ((serve documented 2000 [(quick, docsRequest), (quick, droppingRequest)]).flatMap
        Exchange.events).countP isOfRequest = 2 ∧
      (serve documented 2000 [(quick, docsRequest), (quick, droppingRequest)]).map
          (fun outcome => (outcome.response.status, outcome.response.requestId)) =
        [(307, some "fresh".toList), (200, some "r".toList)] := by
  obtain ⟨accounted, counted⟩ :=
    requests_accounted pagesAnswer_documented pathsFound_documented 2000
      [(quick, docsRequest), (quick, droppingRequest)]
  exact ⟨pagesAnswer_documented, pathsFound_documented, accounted, counted, by decide +kernel⟩

end Web

end FacetedSearch
