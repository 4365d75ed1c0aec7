/-
Module: FacetedSearch.Proofs.Web.Carriage
Purpose: The service carries search texts and results unchanged. A text comes through the query of a
  request however it is written there, and what the service finds for it comes back in the body,
  which reads as that result.
Imports: FacetedSearch.Proofs.Answer, FacetedSearch.Proofs.Json.RoundTrip,
  FacetedSearch.Proofs.Web.Limit
Main exports: Web.asked, Web.reading, Web.endpoints_carry
-/
import FacetedSearch.Proofs.Answer
import FacetedSearch.Proofs.Json.RoundTrip
import FacetedSearch.Proofs.Web.Limit

namespace FacetedSearch

namespace Web

/-- What a query says that asks for a text, and for a user if the client looks at one. -/
def asked (text : Text) (user : Option Text) : List (Text × Text) :=
  ("q".toList, text) :: (user.map fun user => ("user".toList, user)).toList

/-- The request, but so that it reads a path with a query. -/
def reading (request : Request) (path : String) (query : Text) : Request :=
  { request with method := "GET".toList, path := path.toList, query := query }

/-!
### The way in
-/

theorem last?_of_encodes {encoded : List (Text × Text)} {query : Text}
    (encodes : Form.Encodes encoded query) (name : Text) :
    Form.last? query name = (encoded.reverse.find? (·.1 == name)).map (·.2) := by
  unfold Form.last?
  rw [Form.pairs_of_encodes encodes]

theorem searchText_of_asked {text query : Text} {user : Option Text}
    (encodes : Form.Encodes (asked text user) query) : searchText query = text := by
  unfold searchText
  rw [last?_of_encodes encodes]
  cases user <;> rfl

theorem user_of_asked {text query : Text} {user : Option Text}
    (encodes : Form.Encodes (asked text user) query) : Form.last? query "user".toList = user := by
  rw [last?_of_encodes encodes]
  cases user <;> rfl

/-!
### The way out

A body is written without blanks, so what is read back from it is the value that it was written for.
-/

/-- The response is an answer, and its body reads as a value. -/
structure Response.Shows (response : Response) (value : Json) : Prop where
  status : response.status = 200
  body : Json.read? response.body = some value

/-- What an endpoint answers with a status of success is what a client reads at its path. -/
theorem shows_reading {framework : Framework} (paths : framework.PathsFound) {path : String}
    {endpoint : Endpoint} {limit : Nat} {query : Text} {value : Json}
    (leads : target path.toList = .endpoint endpoint) (fits : (searchText query).length ≤ limit)
    (status : (endpoint.answer query).status = 200)
    (body : (endpoint.answer query).body = value.compact) (occasion : Occasion)
    (request : Request) :
    (exchange framework limit occasion (reading request path query)).response.Shows value := by
  have handled : handle framework limit (reading request path query) = endpoint.answer query := by
    rw [handle_get leads rfl]
    exact endpoint.handle_of_fits fits
  constructor
  · rw [exchange_status paths, handled, status]
  · rw [exchange_body paths, handled, body, Json.read?_compact]

/-- A text that is not too long comes through to its endpoint however it is written in the query and
whatever else the request says, and the answer shows what was found for it: the tokens, the
parameters in their order, or the facets with every term in its kind. -/
theorem endpoints_carry {framework : Framework} (paths : framework.PathsFound) {limit : Nat}
    {text query : Text} {user : Option Text} (fits : text.length ≤ limit)
    (encodes : Form.Encodes (asked text user) query) (occasion : Occasion) (request : Request) :
    (exchange framework limit occasion (reading request "/query/tokens" query)).response.Shows
        (.obj [("query".toList, .str text),
          ("tokens".toList, .arr ((Query.tokens text).map .str))]) ∧
      (exchange framework limit occasion (reading request "/query/flat" query)).response.Shows
        (.obj [("query".toList, .str text),
          ("fields".toList, .obj ((Backend.named text).map fun group =>
            (group.1, .arr (group.2.map .str))))]) ∧
      ∀ facets, (Facet.filter text (some (.filter user))).result = .ok facets →
        ∃ shown, Answer.ShowsFacets facets shown ∧
          (exchange framework limit occasion (reading request "/query/facets" query)).response.Shows
            (.obj [("query".toList, .str text), ("user".toList, user.elim .null .str),
              ("facets".toList, shown)]) := by
  have sought := searchText_of_asked encodes
  have fits_query : (searchText query).length ≤ limit := by rwa [sought]
  refine ⟨?_, ?_, ?_⟩
  · have leads : target "/query/tokens".toList = .endpoint .tokens := by decide
    apply shows_reading paths leads fits_query
    · rfl
    · rw [Endpoint.answer, sought]
      rfl
  · have leads : target "/query/flat".toList = .endpoint .flat := by decide
    rw [← Answer.parameters_eq]
    apply shows_reading paths leads fits_query
    · rfl
    · rw [Endpoint.answer, sought]
      rfl
  · intro facets returned
    have leads : target "/query/facets".toList = .endpoint .facets := by decide
    have named : Json.ofText? user = user.elim .null .str := by
      cases user <;> rfl
    refine ⟨Answer.facets facets, Answer.showsFacets_of_kinds (Facet.kinds_filter returned), ?_⟩
    apply shows_reading paths leads fits_query
    · rw [Endpoint.answer, sought, user_of_asked encodes, Outcome.facets_of_ok returned]
    · rw [Endpoint.answer, sought, user_of_asked encodes, Outcome.facets_of_ok returned, ← named]
      rfl

/-- A search for a tag that looks like a number, with a duration and a letter outside ASCII. -/
def carriedText : Text := "tag:5 since:2 é".toList

/-- The search, with some of its characters escaped, and a user. -/
def carriedQuery : Text := "q=tag%3a5%20since%3A2%20%C3%a9&user=al".toList

theorem written_carriedText :
    Form.Written carriedText "tag%3a5%20since%3A2%20%C3%a9".toList := by
  have small_colon : Form.Escapes (Utf8.encodeChar ':') "%3a".toList :=
    .cons ⟨by decide, Or.inl rfl⟩ ⟨by decide, Or.inl rfl⟩ .nil
  have capital_colon : Form.Escapes (Utf8.encodeChar ':') "%3A".toList :=
    .cons ⟨by decide, Or.inl rfl⟩ ⟨by decide, Or.inr rfl⟩ .nil
  have blank : Form.Escapes (Utf8.encodeChar ' ') "%20".toList :=
    .cons ⟨by decide, Or.inl rfl⟩ ⟨by decide, Or.inl rfl⟩ .nil
  have accented : Form.Escapes (Utf8.encodeChar 'é') "%C3%a9".toList :=
    .cons ⟨by decide, Or.inr rfl⟩ ⟨by decide, Or.inl rfl⟩
      (.cons ⟨by decide, Or.inl rfl⟩ ⟨by decide, Or.inl rfl⟩ .nil)
  have letter : Form.Written ['é'] "%C3%a9".toList := .escaped accented .nil
  have seconds : Form.Written "2 é".toList "2%20%C3%a9".toList := .plain rfl (.escaped blank letter)
  have since : Form.Written "since:2 é".toList "since%3A2%20%C3%a9".toList :=
    .plain rfl (.plain rfl (.plain rfl (.plain rfl (.plain rfl (.escaped capital_colon seconds)))))
  have five : Form.Written "5 since:2 é".toList "5%20since%3A2%20%C3%a9".toList :=
    .plain rfl (.escaped blank since)
  exact .plain rfl (.plain rfl (.plain rfl (.escaped small_colon five)))

theorem encodes_carriedQuery :
    Form.Encodes (asked carriedText (some "al".toList)) carriedQuery := by
  have sought : Form.EncodesPair ("q".toList, carriedText)
      ("q".toList ++ '=' :: "tag%3a5%20since%3A2%20%C3%a9".toList) :=
    .mk (.plain rfl .nil) written_carriedText
  have user : Form.EncodesPair ("user".toList, "al".toList) ("user".toList ++ '=' :: "al".toList) :=
    .mk (.plain rfl (.plain rfl (.plain rfl (.plain rfl .nil)))) (.plain rfl (.plain rfl .nil))
  exact .cons sought (.last user)

theorem endpoints_carry_escaped :
    carriedText.length ≤ 2000 ∧ Form.Encodes (asked carriedText (some "al".toList)) carriedQuery ∧
      (Facet.filter carriedText (some (.filter (some "al".toList)))).result =
        .ok { any := [.text "é".toList], since := [.number 2], tag := [.text "5".toList],
              user := [.text "al".toList] } ∧
      documented.PathsFound ∧
      ∃ shown, (exchange documented 2000 quick
          (reading docsRequest "/query/facets" carriedQuery)).response.Shows
        (.obj [("query".toList, .str carriedText), ("user".toList, .str "al".toList),
          ("facets".toList, shown)]) := by
  have short : carriedText.length ≤ 2000 := by decide
  have returned : (Facet.filter carriedText (some (.filter (some "al".toList)))).result =
      .ok { any := [.text "é".toList], since := [.number 2], tag := [.text "5".toList],
            user := [.text "al".toList] } := by
    decide +kernel
  obtain ⟨_, _, facets_carried⟩ :=
    endpoints_carry pathsFound_documented short encodes_carriedQuery quick docsRequest
  obtain ⟨shown, _, shows⟩ := facets_carried _ returned
  exact ⟨short, encodes_carriedQuery, returned, pathsFound_documented, shown, shows⟩

end Web

end FacetedSearch
