/-
Module: FacetedSearch.Facet.Basic
Purpose: Facets: lists of terms with the operator that combines them, and the record of all seven.
Imports: FacetedSearch.Text.Basic
Main exports: Operator, Value, Facet, Facet.Name, Facets, Facets.terms, Facets.add, Facets.toList
-/
import FacetedSearch.Text.Basic

namespace FacetedSearch

/-- How the terms of a facet combine: all must match, one must match, or a rule of another name
that a caller has given the facet. -/
inductive Operator where
  | and
  | or
  | other (label : Text)
deriving Repr, DecidableEq

namespace Operator

/-- The name of an operator. -/
def label : Operator → Text
  | .and => "and".toList
  | .or => "or".toList
  | .other label => label

/-- The operator of a name. -/
def ofLabel (label : Text) : Operator :=
  if label = "and".toList then .and
  else if label = "or".toList then .or
  else .other label

@[simp] theorem label_ofLabel (label : Text) : (ofLabel label).label = label := by
  unfold ofLabel
  split
  · next h => exact h.symm
  · split
    · next h => exact h.symm
    · rfl

end Operator

/-- A term of a facet: a text, or a number of seconds. The text `1` is not the number 1. -/
inductive Value where
  | text (text : Text)
  | number (number : Int)
deriving Repr, DecidableEq

/-- A list of terms and the operator that combines them. -/
structure Facet where
  operator : Operator
  terms : List Value := []
deriving Repr, DecidableEq

namespace Facet

/-- The facets of a search. -/
inductive Name where
  | any
  | quote
  | since
  | tag
  | text
  | uri
  | user
deriving Repr, DecidableEq

/-- The facets in their order. -/
def Name.all : List Name := [.any, .quote, .since, .tag, .text, .uri, .user]

/-- How a facet is called. -/
def Name.label : Name → Text
  | .any => "any".toList
  | .quote => "quote".toList
  | .since => "since".toList
  | .tag => "tag".toList
  | .text => "text".toList
  | .uri => "uri".toList
  | .user => "user".toList

/-- The facet that is called so. -/
def Name.ofLabel? (label : Text) : Option Name := Name.all.find? (·.label == label)

/-- An annotation has one address and one author, so one matching term is enough for these two
facets; in the others every term must match. -/
def Name.operator : Name → Operator
  | .uri | .user => .or
  | _ => .and

/-- Every facet is in the list. -/
theorem Name.mem_all (name : Name) : name ∈ Name.all := by
  cases name <;> decide

/-- A facet is found by its own name and by no other. -/
theorem Name.ofLabel?_eq_some_iff {label : Text} {name : Name} :
    Name.ofLabel? label = some name ↔ label = name.label := by
  constructor
  · intro h
    have found := List.find?_some h
    exact (beq_iff_eq.1 found).symm
  · rintro rfl
    cases name <;> rfl

end Facet

/-- The terms of the seven facets. -/
structure Facets where
  any : List Value := []
  quote : List Value := []
  since : List Value := []
  tag : List Value := []
  text : List Value := []
  uri : List Value := []
  user : List Value := []
deriving Repr, DecidableEq

namespace Facets

/-- The terms of one facet. -/
def terms (facets : Facets) : Facet.Name → List Value
  | .any => facets.any
  | .quote => facets.quote
  | .since => facets.since
  | .tag => facets.tag
  | .text => facets.text
  | .uri => facets.uri
  | .user => facets.user

/-- One facet with a term more, at the end. -/
def add (name : Facet.Name) (value : Value) (facets : Facets) : Facets :=
  match name with
  | .any => { facets with any := facets.any ++ [value] }
  | .quote => { facets with quote := facets.quote ++ [value] }
  | .since => { facets with since := facets.since ++ [value] }
  | .tag => { facets with tag := facets.tag ++ [value] }
  | .text => { facets with text := facets.text ++ [value] }
  | .uri => { facets with uri := facets.uri ++ [value] }
  | .user => { facets with user := facets.user ++ [value] }

/-- The facets by name, in their order and with their operators. -/
def toList (facets : Facets) : List (Facet.Name × Facet) :=
  Facet.Name.all.map fun name => (name, ⟨name.operator, facets.terms name⟩)

/-- A term is added to its own facet and to no other. -/
theorem terms_add (name other : Facet.Name) (value : Value) (facets : Facets) :
    (facets.add name value).terms other =
      facets.terms other ++ if name = other then [value] else [] := by
  cases name <;> cases other <;> simp [add, terms]

/-- Facets are equal when their terms are. -/
theorem ext_terms {first second : Facets} (h : ∀ name, first.terms name = second.terms name) :
    first = second := by
  rcases first with ⟨any, quote, since, tag, text, uri, user⟩
  rcases second with ⟨any', quote', since', tag', text', uri', user'⟩
  simp only [mk.injEq]
  exact ⟨h .any, h .quote, h .since, h .tag, h .text, h .uri, h .user⟩

end Facets

end FacetedSearch
