/-
Module: FacetedSearch.Facet.Session
Purpose: Several searches under one focus, each with terms added by the caller.
Imports: FacetedSearch.Facet.Filter
Main exports: Session.Step, Session.Error, Session.run
-/
import FacetedSearch.Facet.Filter

namespace FacetedSearch

namespace Session

/-- A search, and the terms that the caller adds to its facets afterwards. -/
structure Step where
  text : Text
  additions : List (Text × Value) := []
deriving Repr, DecidableEq

/-- Why a step has no facets. -/
inductive Error where
  | tooLong (error : Duration.TooLong)
  | noFacet (label : Text)
deriving Repr, DecidableEq

/-- A term added to the facet of a name, if there is such a facet. -/
def addTo (facets : Facets) (addition : Text × Value) : Except Error Facets :=
  match Facet.Name.ofLabel? addition.1 with
  | some name => .ok (facets.add name addition.2)
  | none => .error (.noFacet addition.1)

/-- The facets after one step. -/
def Step.facets (focus : Option Facet.Focus) (step : Step) : Except Error Facets :=
  match (Facet.filter step.text focus).result with
  | .error tooLong => .error (.tooLong tooLong)
  | .ok facets => step.additions.foldlM addTo facets

/-- Every step starts afresh from the focus; what one step adds is not seen by the next. -/
def run (focus : Option Facet.Focus) (steps : List Step) : List (Except Error Facets) :=
  steps.map (·.facets focus)

end Session

end FacetedSearch
