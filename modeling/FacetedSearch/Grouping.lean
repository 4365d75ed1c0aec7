/-
Module: FacetedSearch.Grouping
Purpose: Values grouped by key, with keys in the order of their first value.
Main exports: Grouping, Grouping.add, Grouping.ofPairs, Grouping.values, Grouping.keys
-/
namespace FacetedSearch

/-- Groups of values in order; each group has a key of its own. -/
abbrev Grouping (κ α : Type) := List (κ × List α)

namespace Grouping

variable {κ α : Type} [DecidableEq κ]

/-- A value joins the group of its key, as the last; a new key starts a group at the end. -/
def add (key : κ) (value : α) : Grouping κ α → Grouping κ α
  | [] => [(key, [value])]
  | (first, values) :: rest =>
      if first = key then (first, values ++ [value]) :: rest
      else (first, values) :: add key value rest

/-- Pairs of a key and a value, grouped one after the other. -/
def ofPairs (pairs : List (κ × α)) : Grouping κ α :=
  pairs.foldl (fun groups pair => groups.add pair.1 pair.2) []

/-- The keys in order. -/
def keys (groups : Grouping κ α) : List κ := groups.map (·.1)

/-- The values of a key, none when it has no group. -/
def values (key : κ) : Grouping κ α → List α
  | [] => []
  | (first, values) :: rest => if first = key then values else Grouping.values key rest

/-- The number of values in all groups. -/
def size : Grouping κ α → Nat
  | [] => 0
  | (_, values) :: rest => values.length + Grouping.size rest

/-- A value is added to the values of its own key and to no others. -/
theorem values_add (key other : κ) (value : α) (groups : Grouping κ α) :
    (groups.add key value).values other =
      groups.values other ++ if key = other then [value] else [] := by
  induction groups with
  | nil => by_cases h : key = other <;> simp [add, values, h]
  | cons group rest ih =>
      rcases group with ⟨first, held⟩
      by_cases hf : first = key <;> by_cases h : first = other <;> grind [add, values]

/-- A value of a new key puts the key at the end; other keys stay where they are. -/
theorem keys_add (key : κ) (value : α) (groups : Grouping κ α) :
    (groups.add key value).keys =
      if key ∈ groups.keys then groups.keys else groups.keys ++ [key] := by
  induction groups with
  | nil => simp [add, keys]
  | cons group rest ih =>
      rcases group with ⟨first, held⟩
      by_cases hf : first = key
      · simp [add, keys, hf]
      · simp only [keys] at ih
        by_cases h : key ∈ rest.map (·.1) <;> simp_all [add, keys, Ne.symm hf]

/-- One value more is in the groups after a value is added. -/
theorem size_add (key : κ) (value : α) (groups : Grouping κ α) :
    (groups.add key value).size = groups.size + 1 := by
  induction groups with
  | nil => rfl
  | cons group rest ih =>
      rcases group with ⟨first, held⟩
      by_cases hf : first = key
      · simp [add, size, hf]
        omega
      · simp [add, size, hf, ih]
        omega

end Grouping

end FacetedSearch
