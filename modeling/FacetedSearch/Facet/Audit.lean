/-
Module: FacetedSearch.Facet.Audit
Purpose: What is logged about the tokens that a search leaves out.
Imports: FacetedSearch.Facet.Filter, FacetedSearch.Log.Record
Main exports: Facet.Sorted.events
-/
import FacetedSearch.Facet.Filter
import FacetedSearch.Log.Record

namespace FacetedSearch

namespace Facet

/-- What is logged about a token whose duration cannot be read. -/
def droppedEvent (token : Text) : Log.Event :=
  { logger := "annoquery.query.facets".toList
    level := Log.Level.debug
    message := "since_term_dropped".toList
    attributes := [Json.member "term" (.str token), Json.member "field" (.ofString "since")] }

/-- What is logged while tokens are sorted. An error does not take back what was logged before. -/
def Sorted.events (sorted : Sorted) : List Log.Event := sorted.dropped.map droppedEvent

end Facet

end FacetedSearch
