/-
Module: FacetedSearch.Proofs.Parameters
Purpose: The parameters of a search text under their names. The values of a parameter are those that
  the terms of the text ask it for, term by term.
Imports: FacetedSearch.Proofs.Quoting
Main exports: Query.terms, Backend.named, Backend.named_eq_ofPairs, Backend.asked?,
  Backend.values_named
-/
import FacetedSearch.Proofs.Quoting

namespace FacetedSearch

namespace Query

/-- The terms of a search text: its tokens, each read as a value in a field or as free text. -/
def terms (text : Text) : List Term := (tokens text).map Term.ofText

theorem map_toText_terms (text : Text) : (terms text).map Term.toText = tokens text := by
  have same : Term.toText ∘ Term.ofText = id := funext Term.toText_ofText
  rw [terms, List.map_map, same, List.map_id]

/-- No term of a search text is free text that reads as a value in a field. -/
theorem ofText_toText_of_mem_terms {text : Text} {term : Term} (mem : term ∈ terms text) :
    Term.ofText term.toText = term := by
  obtain ⟨token, _, rfl⟩ := List.mem_map.1 mem
  rw [Term.toText_ofText]

end Query

namespace Backend

open Query

/-- The parameters of a search text by name, in the order in which they first occur. -/
def named (text : Text) : Grouping Text Text := (parameters text).rename Parameter.name

/-- The name of the parameter that a term asks, and the value that it asks it for. -/
def namedEntry (term : Term) : Text × Text := ((parameterOf term.field?).name, term.data)

theorem named_eq_ofPairs (text : Text) :
    named text = Grouping.ofPairs ((terms text).map namedEntry) := by
  unfold named parameters terms
  rw [Grouping.rename_ofPairs Parameter.name_injective, List.map_map, List.map_map]
  rfl

/-- The value that a term asks a parameter for, if it does ask it. -/
def asked? (parameter : Parameter) (term : Term) : Option Text :=
  if parameterOf term.field? = parameter then some term.data else none

theorem valuesOf_namedEntry (parameter : Parameter) (terms : List Term) :
    Grouping.valuesOf parameter.name (terms.map namedEntry) =
      terms.filterMap (asked? parameter) := by
  induction terms with
  | nil => rfl
  | cons term terms ih =>
      unfold Grouping.valuesOf at ih ⊢
      by_cases asks : parameterOf term.field? = parameter
      · have found : asked? parameter term = some term.data := if_pos asks
        rw [List.filterMap_cons_some found, ← ih]
        simp [namedEntry, asks]
      · have missing : asked? parameter term = none := if_neg asks
        have other_name : (parameterOf term.field?).name ≠ parameter.name :=
          fun same => asks (Parameter.name_injective same)
        rw [List.filterMap_cons_none missing, ← ih]
        simp [namedEntry, other_name]

theorem values_named (parameter : Parameter) (text : Text) :
    (named text).values parameter.name = (terms text).filterMap (asked? parameter) := by
  rw [named_eq_ofPairs, Grouping.values_ofPairs, valuesOf_namedEntry]

end Backend

end FacetedSearch
