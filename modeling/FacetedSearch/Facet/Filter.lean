/-
Module: FacetedSearch.Facet.Filter
Purpose: Sorting the tokens of a search text into the seven facets.
Imports: FacetedSearch.Facet.Basic, FacetedSearch.Query.Token, FacetedSearch.Duration
Main exports: Facet.Route, Facet.route, Facet.Focus, Facet.Sorted, Facet.sort, Facet.filter
-/
import FacetedSearch.Facet.Basic
import FacetedSearch.Query.Token
import FacetedSearch.Duration

namespace FacetedSearch

namespace Facet

/-!
### Where a token goes

The heading of a token decides: it is the part before the first colon.  A token without a colon
has a heading too, all but its last character, so that the word `users` stands under `user` with
nothing asked for.  Headings that name no facet, and `group`, leave the whole token to `any`.
-/

/-- The part of a token that may name a facet. -/
def heading (token : Text) : Text :=
  match token.cut? ':' with
  | some (name, _) => name
  | none => token.dropLast

/-- What stands after the heading and the character that ends it. -/
def body (token : Text) : Text := token.drop ((heading token).length + 1)

/-- What becomes of a token: a term of a facet, or nothing. -/
inductive Route where
  | into (name : Name) (value : Value)
  | dropped
deriving Repr, DecidableEq

/-- The way of one token. A duration that cannot be read is dropped, one that is too long to be
read is an error. -/
def route (token : Text) : Except Duration.TooLong Route :=
  match Query.Field.ofName? (heading token) with
  | some .quote => .ok (.into .quote (.text (body token)))
  | some .tag => .ok (.into .tag (.text (body token)))
  | some .text => .ok (.into .text (.text (body token)))
  | some .uri => .ok (.into .uri (.text (body token)))
  | some .user => .ok (.into .user (.text (body token)))
  | some .since =>
      match Duration.seconds? (body token) with
      | .error tooLong => .error tooLong
      | .ok none => .ok .dropped
      | .ok (some seconds) => .ok (.into .since (.number seconds))
  | some .group | none => .ok (.into .any (.text token))

/-!
### Sorting
-/

/-- The outcome of sorting tokens: the tokens that were dropped on the way, and the facets, or the
error at which sorting stopped. -/
structure Sorted where
  dropped : List Text
  result : Except Duration.TooLong Facets

/-- Tokens one by one into the facets, up to the first error. -/
def sort : List Text → Facets → Sorted
  | [], facets => ⟨[], .ok facets⟩
  | token :: rest, facets =>
      match route token with
      | .error tooLong => ⟨[], .error tooLong⟩
      | .ok (.into name value) => sort rest (facets.add name value)
      | .ok .dropped =>
          let sorted := sort rest facets
          { sorted with dropped := token :: sorted.dropped }

/-!
### Focus

A caller may look at one user's annotations.  The user is then the first term of the facet `user`,
as given.  The focus comes as a filter or as a mapping, of which only the entry `user` counts.
-/

/-- What the caller looks at. -/
inductive Focus where
  | filter (user : Option Text)
  | mapping (entries : List (Text × Option Text))
deriving Repr, DecidableEq

/-- The user that a focus names. -/
def Focus.user? : Focus → Option Text
  | .filter user => user
  | .mapping entries =>
      match entries.find? (·.1 == "user".toList) with
      | some (_, user) => user
      | none => none

/-- The facets before any token: an empty name is no focus. -/
def start (focus : Option Focus) : Facets :=
  match focus.bind Focus.user? with
  | none | some [] => {}
  | some user => { user := [.text user] }

/-- The facets of a search text. -/
def filter (text : Text) (focus : Option Focus) : Sorted :=
  sort (Query.tokens text) (start focus)

end Facet

end FacetedSearch
