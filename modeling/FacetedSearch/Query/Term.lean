/-
Module: FacetedSearch.Query.Term
Purpose: The fields of a search and the reading of a word as a field with its value.
Imports: FacetedSearch.Text.Basic
Main exports: Query.Field, Query.Term, Query.Term.ofText, Query.Term.toText
-/
import FacetedSearch.Text.Basic

namespace FacetedSearch

namespace Query

/-!
### Fields

A word such as `tag:news` asks for a value in one field.  Only the names listed here are fields;
a word with any other name before its colon is free text.
-/

/-- The fields that a search can name. -/
inductive Field where
  | group
  | quote
  | since
  | tag
  | text
  | uri
  | user
deriving Repr, DecidableEq

/-- How a field is written in a search. -/
def Field.name : Field → Text
  | .group => "group".toList
  | .quote => "quote".toList
  | .since => "since".toList
  | .tag => "tag".toList
  | .text => "text".toList
  | .uri => "uri".toList
  | .user => "user".toList

/-- Every field once. -/
def Field.all : List Field := [.group, .quote, .since, .tag, .text, .uri, .user]

/-- The field of a name; names are case-sensitive. -/
def Field.ofName? (name : Text) : Option Field := Field.all.find? (·.name == name)

/-- A field is found by its own name and by no other. -/
theorem Field.ofName?_eq_some_iff {name : Text} {field : Field} :
    Field.ofName? name = some field ↔ name = field.name := by
  constructor
  · intro h
    have := List.find?_some h
    exact (beq_iff_eq.1 this).symm
  · rintro rfl
    cases field <;> rfl

/-- No field name holds a colon. -/
theorem Field.colon_not_mem_name (field : Field) : ':' ∉ field.name := by
  cases field <;> decide

/-- No field name is empty. -/
theorem Field.name_ne_nil (field : Field) : field.name ≠ [] := by
  cases field <;> decide

/-!
### Terms
-/

/-- A word of a search: a value asked for in a field, or free text. -/
inductive Term where
  | tagged (field : Field) (value : Text)
  | free (text : Text)
deriving Repr, DecidableEq

/-- A word names a field when the part before its first colon is a field's name. -/
def Term.ofText (text : Text) : Term :=
  match text.cut? ':' with
  | none => .free text
  | some (name, value) =>
      match Field.ofName? name with
      | some field => .tagged field value
      | none => .free text

/-- The field of a term, none for free text. -/
def Term.field? : Term → Option Field
  | .tagged field _ => some field
  | .free _ => none

/-- What a term asks for: the value in its field, or the free text. -/
def Term.data : Term → Text
  | .tagged _ value => value
  | .free text => text

/-- The word that a term is written as. -/
def Term.toText : Term → Text
  | .tagged field value => field.name ++ ':' :: value
  | .free text => text

/-- Reading a word as a term loses nothing. -/
@[simp] theorem Term.toText_ofText (text : Text) : (Term.ofText text).toText = text := by
  unfold Term.ofText
  split
  · rfl
  · next name value h =>
      split
      · next field hf =>
          obtain ⟨htext, -⟩ := Text.cut?_eq_some_iff.1 h
          rw [Term.toText, htext, Field.ofName?_eq_some_iff.1 hf]
      · rfl

/-- A written field value is read back whatever the value is. -/
@[simp] theorem Term.ofText_toText_tagged (field : Field) (value : Text) :
    Term.ofText (Term.tagged field value).toText = .tagged field value := by
  have cut : (Term.tagged field value).toText.cut? ':' = some (field.name, value) :=
    Text.cut?_eq_some_iff.2 ⟨rfl, field.colon_not_mem_name⟩
  have found : Field.ofName? field.name = some field := Field.ofName?_eq_some_iff.2 rfl
  simp [Term.ofText, cut, found]

end Query

end FacetedSearch
