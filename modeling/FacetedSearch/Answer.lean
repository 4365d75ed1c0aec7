/-
Module: FacetedSearch.Answer
Purpose: The results of a search text as JSON values.
Imports: FacetedSearch.Backend, FacetedSearch.Facet.Filter, FacetedSearch.Json.Basic
Main exports: Answer.tokens, Answer.parameters, Answer.facets
-/
import FacetedSearch.Backend
import FacetedSearch.Facet.Filter
import FacetedSearch.Json.Basic

namespace FacetedSearch

namespace Answer

/-- Tokens as an array of strings. -/
def tokens (tokens : List Text) : Json := .strings tokens

/-- Parameters as an object with an array of values for each. -/
def parameters (groups : Grouping Backend.Parameter Text) : Json :=
  .obj (groups.map fun (parameter, values) => (parameter.name, .strings values))

/-- A term: a text is a string, a number of seconds a number. -/
def value : Value → Json
  | .text text => .str text
  | .number number => .int number

/-- A facet as an object of its two parts. -/
def facet (facet : Facet) : Json :=
  .obj [Json.member "operator" (.str facet.operator.label),
    Json.member "terms" (.arr (facet.terms.map value))]

/-- The seven facets as an object, in their order. -/
def facets (facets : Facets) : Json :=
  .obj (facets.toList.map fun (name, held) => (name.label, facet held))

end Answer

end FacetedSearch
