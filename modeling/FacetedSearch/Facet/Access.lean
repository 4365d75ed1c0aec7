/-
Module: FacetedSearch.Facet.Access
Purpose: What callers may do with a facet in their hands.
Imports: FacetedSearch.Facet.Basic, FacetedSearch.Text.Quoted
Main exports: Facet.Action, Facet.Reply, Facet.Refusal, Facet.perform, Facet.performAll
-/
import FacetedSearch.Facet.Basic
import FacetedSearch.Text.Quoted

namespace FacetedSearch

namespace Facet

/-!
### Actions

A facet has two parts, `operator` and `terms`.  They can be read by name, and a term can be added
to its list; the parts themselves are fixed.  A copy has a list of its own, so that adding to the
copy leaves the facet alone.  As its list can grow, a facet is no key of a table.
-/

/-- What a caller asks of a facet. -/
inductive Action where
  | read (key : Text)
  | append (term : Value)
  | copyAppend (term : Value)
  | assign (key : Text)
  | delete (key : Text)
  | compare (other : Facet)
  | fresh
  | hash
deriving Repr, DecidableEq

/-- Why an action is refused. -/
inductive Refusal where
  | noPart (key : Text)
  | assigned (key : Text)
  | deleted (key : Text)
  | unhashable
deriving Repr, DecidableEq

/-- How a refusal is reported. -/
def Refusal.message : Refusal → Text
  | .noPart key => key
  | .assigned key => "cannot assign to field ".toList ++ Text.quotedName key
  | .deleted key => "cannot delete field ".toList ++ Text.quotedName key
  | .unhashable => "unhashable type: ".toList ++ Text.quotedName "list".toList

/-- What a caller gets back. -/
inductive Reply where
  | done
  | operator (operator : Operator)
  | terms (terms : List Value)
  | copy (facet : Facet)
  | verdict (equal : Bool)
deriving Repr, DecidableEq

/-- The part of a name. -/
def part (facet : Facet) (key : Text) : Except Refusal Reply :=
  if key = "operator".toList then .ok (.operator facet.operator)
  else if key = "terms".toList then .ok (.terms facet.terms)
  else .error (.noPart key)

/-- A facet with a term more. -/
def append (facet : Facet) (term : Value) : Facet :=
  { facet with terms := facet.terms ++ [term] }

/-- The facet after an action, and what the caller gets. -/
def perform (facet : Facet) : Action → Facet × Except Refusal Reply
  | .read key => (facet, facet.part key)
  | .append term => (facet.append term, .ok .done)
  | .copyAppend term => (facet, .ok (.copy (facet.append term)))
  | .assign key => (facet, .error (.assigned key))
  | .delete key => (facet, .error (.deleted key))
  | .compare other => (facet, .ok (.verdict (facet = other)))
  | .fresh => (facet, .ok (.terms (Facet.mk facet.operator []).terms))
  | .hash => (facet, .error .unhashable)

/-- Actions one after the other: the facet after each, and what the caller gets each time. -/
def performAll (facet : Facet) : List Action → List (Facet × Except Refusal Reply)
  | [] => []
  | action :: rest =>
      let step := facet.perform action
      step :: step.1.performAll rest

end Facet

end FacetedSearch
