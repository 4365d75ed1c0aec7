/-
Module: FacetedSearch.Backend
Purpose: A search text as parameters of the backend's search.
Imports: FacetedSearch.Grouping, FacetedSearch.Query.Token
Main exports: Backend.Parameter, Backend.parameterOf, Backend.parameters
-/
import FacetedSearch.Grouping
import FacetedSearch.Query.Token

namespace FacetedSearch

namespace Backend

/-!
### Parameters

The backend takes a list of values for each parameter.  Every field is a parameter of the same
name, except that the field `tag` is the parameter `tags`.  Free text goes to `any`.
-/

/-- The parameters of the backend's search. -/
inductive Parameter where
  | any
  | group
  | quote
  | since
  | tags
  | text
  | uri
  | user
deriving Repr, DecidableEq

/-- The name of a parameter. -/
def Parameter.name : Parameter → Text
  | .any => "any".toList
  | .group => "group".toList
  | .quote => "quote".toList
  | .since => "since".toList
  | .tags => "tags".toList
  | .text => "text".toList
  | .uri => "uri".toList
  | .user => "user".toList

/-- The parameter of a field, or of free text. -/
def parameterOf : Option Query.Field → Parameter
  | none => .any
  | some .group => .group
  | some .quote => .quote
  | some .since => .since
  | some .tag => .tags
  | some .text => .text
  | some .uri => .uri
  | some .user => .user

/-- The parameter of a token and the value that it gets. -/
def entry (token : Text) : Parameter × Text :=
  let term := Query.Term.ofText token
  (parameterOf term.field?, term.data)

/-- The parameters of a search text, in the order in which they first occur. -/
def parameters (text : Text) : Grouping Parameter Text :=
  Grouping.ofPairs ((Query.tokens text).map entry)

/-- Different fields are different parameters, and none is the parameter of free text. -/
theorem parameterOf_injective {first second : Option Query.Field}
    (h : parameterOf first = parameterOf second) : first = second := by
  rcases first with _ | first <;> rcases second with _ | second
  · rfl
  · cases second <;> simp [parameterOf] at h
  · cases first <;> simp [parameterOf] at h
  · cases first <;> cases second <;> simp [parameterOf] at h ⊢

end Backend

end FacetedSearch
