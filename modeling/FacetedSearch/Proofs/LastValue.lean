/-
Module: FacetedSearch.Proofs.LastValue
Purpose: Names with values one after the other, where a name counts by the last value it has. The
  search for it goes from the end, and it finds the value behind which the name does not occur again.
Main exports: find?_reverse_eq_some_iff, find?_reverse_eq_none_iff, find?_reverse_filter
-/
import Mathlib

namespace FacetedSearch

variable {κ α : Type} [BEq κ] [LawfulBEq κ]

theorem find?_reverse_eq_some_iff {pairs : List (κ × α)} {name : κ} {value : α} :
    (pairs.reverse.find? (·.1 == name)).map (·.2) = some value ↔
      ∃ before after, pairs = before ++ (name, value) :: after ∧
        ∀ later ∈ after, later.1 ≠ name := by
  constructor
  · intro found
    obtain ⟨⟨other, value⟩, first, rfl⟩ := Option.map_eq_some_iff.1 found
    obtain ⟨named, after, before, cut, last⟩ := List.find?_eq_some_iff_append.1 first
    obtain rfl : other = name := beq_iff_eq.1 named
    -- The search goes from the end, so what it has passed by is what stands behind.
    rw [List.reverse_eq_iff, List.reverse_append, List.reverse_cons, List.append_assoc] at cut
    refine ⟨before.reverse, after.reverse, cut, ?_⟩
    intro later mem same
    have differs := last later (List.mem_reverse.1 mem)
    rw [same, beq_self_eq_true] at differs
    cases differs
  · rintro ⟨before, after, cut, last⟩
    refine Option.map_eq_some_iff.2 ⟨(name, value), ?_, rfl⟩
    refine List.find?_eq_some_iff_append.2
      ⟨beq_self_eq_true name, after.reverse, before.reverse, ?_, ?_⟩
    · rw [cut, List.reverse_append, List.reverse_cons, List.append_assoc]
      rfl
    · intro later mem
      have differs := last later (List.mem_reverse.1 mem)
      rw [beq_eq_false_iff_ne.2 differs]
      rfl

theorem find?_reverse_eq_none_iff {pairs : List (κ × α)} {name : κ} :
    (pairs.reverse.find? (·.1 == name)).map (·.2) = none ↔ ∀ pair ∈ pairs, pair.1 ≠ name := by
  simp only [Option.map_eq_none_iff, List.find?_eq_none, List.mem_reverse, beq_iff_eq]

/-- Pairs of other names may be left out. -/
theorem find?_reverse_filter {name : κ} {kept : κ × α → Bool}
    (named : ∀ pair, pair.1 = name → kept pair = true) (pairs : List (κ × α)) :
    (pairs.filter kept).reverse.find? (·.1 == name) = pairs.reverse.find? (·.1 == name) := by
  rw [← List.filter_reverse, List.find?_filter]
  congr 1
  funext pair
  by_cases same : pair.1 = name
  · simp [named pair same]
  · simp [same]

end FacetedSearch
