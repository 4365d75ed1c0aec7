/-
Module: FacetedSearch.Web.Service
Purpose: The answers to requests, and what is logged about each. What belongs to the framework that
  the service stands on is a parameter: the pages that it adds of its own, and the address that it
  makes of a request.
Imports: FacetedSearch.Answer, FacetedSearch.Facet.Audit, FacetedSearch.Json.Printer,
  FacetedSearch.Web.Form
Main exports: Web.Request, Web.Response, Web.Exchange, Web.Endpoint, Web.Framework, Web.Occasion,
  Web.exchange, Web.serve
-/
import FacetedSearch.Answer
import FacetedSearch.Facet.Audit
import FacetedSearch.Json.Printer
import FacetedSearch.Web.Form

namespace FacetedSearch

namespace Web

/-- What a client asks, and under which scheme and of which server. -/
structure Request where
  method : Text := "GET".toList
  path : Text
  query : Text := []
  headers : List (Text × Text) := []
  scheme : Text := "http".toList
  server : Text := "localhost".toList
deriving Repr, DecidableEq

/-- The value of the first header of a name; the name counts in any case. -/
def Request.header? (request : Request) (name : String) : Option Text :=
  (request.headers.find? fun header => header.1.map Char.toLower == name.toList).map (·.2)

/-- What a client is answered. -/
structure Response where
  status : Nat
  body : Text
  requestId : Option Text
  location : Option Text := none
  allow : Option Text := none
deriving Repr, DecidableEq

/-- Why a request is given up: its search text has a duration that is too long, or its address
cannot be taken apart. -/
inductive Failure where
  | tooLong (error : Duration.TooLong)
  | noPath (message : Text)
deriving Repr, DecidableEq

/-- A request with everything that it led to: the response, the events that were logged in their
order, and the error that the request was given up for. -/
structure Exchange where
  response : Response
  events : List Log.Event
  failure : Option Failure := none
deriving Repr

/-- The name of the service. -/
def title : Text := "Annotation Query Parser".toList

/-- The version of the service. -/
def version : Text := "1.0.0".toList

/-!
### Endpoints

There are four paths, all of them for reading.  The same path with slashes at its end is sent on
to the path without; every other path leads to none of them.
-/

/-- What the service can be asked for. -/
inductive Endpoint where
  | health
  | tokens
  | flat
  | facets
deriving Repr, DecidableEq

/-- Every endpoint once. -/
def Endpoint.all : List Endpoint := [.health, .tokens, .flat, .facets]

/-- The path of an endpoint. -/
def Endpoint.path : Endpoint → Text
  | .health => "/health".toList
  | .tokens => "/query/tokens".toList
  | .flat => "/query/flat".toList
  | .facets => "/query/facets".toList

/-- The endpoint of a path; one line feed at the end of a path is not part of it. -/
def Endpoint.ofPath? (path : Text) : Option Endpoint :=
  Endpoint.all.find? fun endpoint => endpoint.path == path || endpoint.path ++ ['\n'] == path

/-- A path without the slashes at its end. -/
def withoutSlashes (path : Text) : Text := (path.reverse.dropWhile (· == '/')).reverse

/-- What a path leads to among the endpoints. -/
inductive Target where
  | endpoint (endpoint : Endpoint)
  | moved (path : Text)
  | missing
deriving Repr, DecidableEq

/-- Where a path leads. -/
def target (path : Text) : Target :=
  match Endpoint.ofPath? path with
  | some endpoint => .endpoint endpoint
  | none =>
      if path.getLast? = some '/' ∧ (Endpoint.ofPath? (withoutSlashes path)).isSome then
        .moved (withoutSlashes path)
      else .missing

/-!
### Handlers

A handler is run for a query that is not too long.  Its outcome is a status and a body, with the
events that it logs, or the error that it is given up for.
-/

/-- What becomes of a request before it is accounted for. -/
structure Outcome where
  status : Nat := 200
  body : Text
  events : List Log.Event := []
  location : Option Text := none
  allow : Option Text := none
  failure : Option Duration.TooLong := none

/-- The answer to a question about the service's health. -/
def Outcome.health : Outcome :=
  { body := (Json.obj [Json.member "status" (.ofString "ok")]).compact }

/-- The tokens of a query. -/
def Outcome.tokens (query : Text) : Outcome :=
  { body := (Json.obj [Json.member "query" (.str query),
      Json.member "tokens" (Answer.tokens (Query.tokens query))]).compact }

/-- What is logged about the parameters of a query: how many tokens they hold. -/
def flatEvent (groups : Grouping Backend.Parameter Text) : Log.Event :=
  { logger := "annoquery.api.main".toList
    level := Log.Level.debug
    message := "flat_query".toList
    attributes := [Json.member "token_count" (.ofNat groups.size)] }

/-- The parameters of a query. -/
def Outcome.flat (query : Text) : Outcome :=
  let groups := Backend.parameters query
  { body := (Json.obj [Json.member "query" (.str query),
      Json.member "fields" (Answer.parameters groups)]).compact
    events := [flatEvent groups] }

/-- The body of an answer that the service has failed to give. -/
def failureBody : Text :=
  (Json.obj [Json.member "error" (.ofString "internal_server_error")]).compact

/-- The facets of a query, with the user that the client looks at. -/
def Outcome.facets (query : Text) (user : Option Text) : Outcome :=
  let sorted := Facet.filter query (some (.filter user))
  match sorted.result with
  | .error tooLong =>
      { status := 500, body := failureBody, events := sorted.events, failure := some tooLong }
  | .ok facets =>
      { body := (Json.obj [Json.member "query" (.str query), Json.member "user" (.ofText? user),
          Json.member "facets" (Answer.facets facets)]).compact
        events := sorted.events }

/-- How the limit on the length is told to a client. -/
def lengthMessage (limit : Nat) : Text :=
  "String should have at most ".toList ++ Numeral.ofNat limit ++
    if limit = 1 then " character".toList else " characters".toList

/-- The refusal of a query of more than `limit` characters. -/
def Outcome.tooLong (limit : Nat) (query : Text) : Outcome :=
  { status := 422
    body := (Json.obj [Json.member "detail" (.arr [.obj [
      Json.member "type" (.ofString "string_too_long"),
      Json.member "loc" (.arr [.ofString "query", .ofString "q"]),
      Json.member "msg" (.str (lengthMessage limit)),
      Json.member "input" (.str query),
      Json.member "ctx" (.obj [Json.member "max_length" (.ofNat limit)])]])]).compact }

/-- An answer that only says what is wrong. -/
def Outcome.detail (status : Nat) (text : String) : Outcome :=
  { status := status, body := (Json.obj [Json.member "detail" (.ofString text)]).compact }

/-- The search text of a query; without one it is empty. -/
def searchText (query : Text) : Text := (Form.last? query "q".toList).getD []

/-- What an endpoint answers to a query. -/
def Endpoint.handle (limit : Nat) (query : Text) (endpoint : Endpoint) : Outcome :=
  let text := searchText query
  match endpoint with
  | .health => .health
  | .tokens => if limit < text.length then .tooLong limit text else .tokens text
  | .flat => if limit < text.length then .tooLong limit text else .flat text
  | .facets =>
      if limit < text.length then .tooLong limit text
      else .facets text (Form.last? query "user".toList)

/-!
### The framework

The framework leads requests to the endpoints, and it adds pages of its own, such as the
documentation that it makes of the endpoints.  It also makes an address of each request, of the host
that the request names and its path, and takes it apart again where the path is wanted; a host that
is none may keep it from that.  What these pages are and which hosts it takes is left open here.
-/

/-- An answer that the framework gives of its own. -/
structure Page where
  status : Nat
  body : Text
  location : Option Text := none
  allow : Option Text := none
deriving Repr, DecidableEq

/-- The framework, as far as the service depends on it. -/
structure Framework where
  /-- What is answered to a request for one of the framework's own pages. -/
  page? : Request → Option Page
  /-- What the address of a request begins with: the scheme and the host. -/
  origin : Request → Text
  /-- The path in the address of a request, or what is wrong with the address. -/
  path : Request → Except Text Text

/-- What becomes of a request for a page of the framework. -/
def Page.outcome (page : Page) : Outcome :=
  { status := page.status, body := page.body, location := page.location, allow := page.allow }

/-- The address that a client is sent on to. -/
def movedTo (origin path query : Text) : Text :=
  Form.escapeAddress (origin ++ path ++ if query = [] then [] else '?' :: query)

/-- What becomes of a request. The pages of the framework have paths of their own. -/
def handle (framework : Framework) (limit : Nat) (request : Request) : Outcome :=
  match target request.path, framework.page? request with
  | .endpoint endpoint, _ =>
      if request.method = "GET".toList then endpoint.handle limit request.query
      else { Outcome.detail 405 "Method Not Allowed" with allow := some "GET".toList }
  | .moved _, some page | .missing, some page => page.outcome
  | .moved path, none =>
      { status := 307
        body := []
        location := some (movedTo (framework.origin request) path request.query) }
  | .missing, none => .detail 404 "Not Found"

/-!
### Accounting

Every request is logged once, after whatever its handler has logged, under the name that the
client gave it or else under a fresh one.  The response carries the name too, unless the request
was given up for an error; the error is then logged last.  A request whose address has no path is
given up when it is to be logged, so that it is not.
-/

/-- What the service does not decide about a request: the name that is at hand for it if the client
gives it none, and the milliseconds that it takes. -/
structure Occasion where
  freshId : Text
  latency : Json.Decimal
deriving Repr, DecidableEq

/-- The name that the client gave the request, if it is not empty. The first header counts. -/
def givenId? (request : Request) : Option Text :=
  (request.header? "x-request-id").filter (· ≠ [])

/-- What is logged about a request. -/
def requestEvent (id path method : Text) (status : Nat) (latency : Json.Decimal) : Log.Event :=
  { logger := "annoquery.api".toList
    level := Log.Level.info
    message := "request".toList
    attributes := [Json.member "request_id" (.str id),
      Json.member "path" (.str path),
      Json.member "method" (.str method),
      Json.member "status_code" (.ofNat status),
      Json.member "latency_ms" (.decimal latency)] }

/-- What is logged about an error that a request was given up for. -/
def failureEvent : Log.Event :=
  { logger := "annoquery.api.main".toList
    level := Log.Level.error
    message := "unhandled_exception".toList }

/-- The exchange of a request that is logged, under a name and a path. -/
def Outcome.logged (outcome : Outcome) (id path method : Text) (latency : Json.Decimal) :
    Exchange :=
  { response :=
      { status := outcome.status
        body := outcome.body
        requestId := if outcome.failure.isSome then none else some id
        location := outcome.location
        allow := outcome.allow }
    events := outcome.events ++ requestEvent id path method outcome.status latency ::
      (outcome.failure.map fun _ => failureEvent).toList
    failure := outcome.failure.map .tooLong }

/-- The exchange of a request that is given up because its address has no path. -/
def Outcome.unlogged (outcome : Outcome) (message : Text) : Exchange :=
  { response := { status := 500, body := failureBody, requestId := none }
    events := outcome.events ++ [failureEvent]
    failure := some (.noPath message) }

/-- A request and everything that it leads to, in a service that takes queries of up to `limit`
characters. -/
def exchange (framework : Framework) (limit : Nat) (occasion : Occasion) (request : Request) :
    Exchange :=
  let id := (givenId? request).getD occasion.freshId
  let outcome := handle framework limit request
  match framework.path request with
  | .ok path => outcome.logged id path request.method occasion.latency
  | .error message => outcome.unlogged message

/-- Requests one after the other, each on an occasion of its own. -/
def serve (framework : Framework) (limit : Nat) (requests : List (Occasion × Request)) :
    List Exchange :=
  requests.map fun given => exchange framework limit given.1 given.2

/-!
### A framework without pages

The simplest framework has no pages of its own.  It finds the path of every request, whatever host
the request names.
-/

/-- The host that a request names, or else the server that it was sent to. -/
def Request.host (request : Request) : Text := (request.header? "host").getD request.server

/-- A path with a slash at its start; an empty path stays empty. -/
def withSlash : Text → Text
  | [] => []
  | '/' :: rest => '/' :: rest
  | path => '/' :: path

/-- The path as it is logged: from a slash on, without tabs and line breaks, and with the
characters escaped that would end the path of an address or part it otherwise. -/
def loggedPath (path : Text) : Text :=
  (withSlash path).flatMap fun c =>
    if c = '\t' ∨ c = '\n' ∨ c = '\r' then []
    else if c = '?' ∨ c = '#' ∨ c = '\\' then Form.escapeByte c.toNat
    else [c]

/-- A framework that adds no pages and finds a path in every address. -/
def Framework.plain : Framework where
  page? _ := none
  origin request := request.scheme ++ "://".toList ++ request.host
  path request := .ok (loggedPath request.path)

end Web

end FacetedSearch
