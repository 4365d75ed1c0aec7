/-
Module: FacetedSearch.Proofs.Grouping
Purpose: Grouping values one after the other, told all at once: the keys stand in the order in which
  they first occur, and each has its values in order. Pairs in two parts give the groups of the first
  part with those of the second merged into them. Renaming the keys, each to a name of its own,
  commutes with grouping.
Imports: FacetedSearch.Grouping
Main exports: Grouping.byKey, Grouping.ofPairs_eq_byKey, Grouping.merge, Grouping.ofPairs_append,
  Grouping.rename, Grouping.rename_ofPairs
-/
import Mathlib
import FacetedSearch.Grouping

namespace FacetedSearch

namespace Grouping

variable {κ α : Type} [DecidableEq κ]

/-- The values that pairs have for a key, in order. -/
def valuesOf (key : κ) (pairs : List (κ × α)) : List α :=
  (pairs.filter fun pair => pair.1 = key).map Prod.snd

/-- Each key where it first occurs, with all its values in order. -/
def byKey (pairs : List (κ × α)) : Grouping κ α :=
  (pairs.map Prod.fst).eraseDups.map fun key => (key, valuesOf key pairs)

@[simp] theorem ofPairs_concat (pairs : List (κ × α)) (pair : κ × α) :
    ofPairs (pairs ++ [pair]) = (ofPairs pairs).add pair.1 pair.2 := by
  simp [ofPairs]

theorem valuesOf_append (key : κ) (first second : List (κ × α)) :
    valuesOf key (first ++ second) = valuesOf key first ++ valuesOf key second := by
  simp [valuesOf]

theorem keys_ofPairs (pairs : List (κ × α)) :
    (ofPairs pairs).keys = (pairs.map Prod.fst).eraseDups := by
  induction pairs using List.reverseRecOn with
  | nil => rfl
  | append_singleton pairs pair ih =>
      rw [ofPairs_concat, keys_add, ih, List.map_append, List.eraseDups_append]
      by_cases known : pair.1 ∈ pairs.map Prod.fst
      · have no_new : [pair.1].removeAll (pairs.map Prod.fst) = [] := by
          simp [List.removeAll, known]
        rw [if_pos (List.mem_eraseDups.2 known), List.map_singleton, no_new]
        simp
      · have new : [pair.1].removeAll (pairs.map Prod.fst) = [pair.1] := by
          simp [List.removeAll, known]
        have alone : [pair.1].eraseDups = [pair.1] := by simp [List.eraseDups_cons]
        rw [if_neg (fun h => known (List.mem_eraseDups.1 h)), List.map_singleton, new, alone]

theorem values_ofPairs (key : κ) (pairs : List (κ × α)) :
    (ofPairs pairs).values key = valuesOf key pairs := by
  induction pairs using List.reverseRecOn with
  | nil => rfl
  | append_singleton pairs pair ih =>
      rw [ofPairs_concat, values_add, ih, valuesOf_append]
      by_cases same : pair.1 = key <;> simp [valuesOf, same]

theorem keys_nodup_ofPairs (pairs : List (κ × α)) : (ofPairs pairs).keys.Nodup := by
  induction pairs using List.reverseRecOn with
  | nil => exact List.nodup_nil
  | append_singleton pairs pair ih =>
      rw [ofPairs_concat, keys_add]
      split
      · exact ih
      · next new =>
          rw [← List.concat_eq_append]
          exact ih.concat new

/-- Grouping keeps every value. -/
theorem size_ofPairs (pairs : List (κ × α)) : (ofPairs pairs).size = pairs.length := by
  induction pairs using List.reverseRecOn with
  | nil => rfl
  | append_singleton pairs pair ih =>
      rw [ofPairs_concat, size_add, ih, List.length_append]
      rfl

/-- Groups with different keys are told by their keys and the values of each. -/
theorem eq_map_keys {groups : Grouping κ α} (distinct : groups.keys.Nodup) :
    groups = groups.keys.map fun key => (key, groups.values key) := by
  induction groups with
  | nil => rfl
  | cons group rest ih =>
      obtain ⟨first, held⟩ := group
      obtain ⟨not_later, distinct⟩ := List.nodup_cons.1 distinct
      have here : values first ((first, held) :: rest) = held := by simp [values]
      have later : ∀ key ∈ keys rest, values key ((first, held) :: rest) = values key rest := by
        intro key h
        have other : first ≠ key := by
          rintro rfl
          exact not_later h
        simp [values, other]
      have tail :
          (keys rest).map (fun key => (key, values key ((first, held) :: rest))) = rest := by
        rw [List.map_congr_left fun key h => by rw [later key h]]
        exact (ih distinct).symm
      change (first, held) :: rest = (first :: keys rest).map _
      rw [List.map_cons, here, tail]

/-- Groupings with the same keys in the same order, and the same values for each, are the same. -/
theorem eq_of_keys_of_values {first second : Grouping κ α} (distinct : first.keys.Nodup)
    (same_keys : first.keys = second.keys)
    (same_values : ∀ key, first.values key = second.values key) : first = second := by
  have distinct' : second.keys.Nodup := same_keys ▸ distinct
  rw [eq_map_keys distinct, eq_map_keys distinct', ← same_keys]
  apply List.map_congr_left
  intro key _
  rw [same_values]

theorem ofPairs_eq_byKey (pairs : List (κ × α)) : ofPairs pairs = byKey pairs := by
  rw [eq_map_keys (keys_nodup_ofPairs pairs), keys_ofPairs]
  apply List.map_congr_left
  intro key _
  rw [values_ofPairs]

/-!
### One grouping behind another

A merge is told by its keys and the values of each as well: what the first grouping knows comes
first, with its values before those of the second, and what only the second knows comes after.
-/

/-- The keys of the first grouping, each with its values in both, and then the groups of the second
that have new keys. -/
def merge (first second : Grouping κ α) : Grouping κ α :=
  first.map (fun group => (group.1, group.2 ++ second.values group.1)) ++
    second.filter fun group => group.1 ∉ first.keys

theorem mem_keys_cons {ι β : Type} {key known : ι} {held : List β} {rest : Grouping ι β} :
    key ∈ keys ((known, held) :: rest) ↔ key = known ∨ key ∈ rest.keys := List.mem_cons

theorem keys_merge (first second : Grouping κ α) :
    (first.merge second).keys = first.keys ++ second.keys.filter (· ∉ first.keys) := by
  simp only [merge, keys, List.map_append, List.map_map, List.filter_map]
  rfl

theorem values_eq_nil {key : κ} {groups : Grouping κ α} (missing : key ∉ groups.keys) :
    groups.values key = [] := by
  induction groups with
  | nil => rfl
  | cons group rest ih =>
      obtain ⟨known, held⟩ := group
      obtain ⟨other, missing⟩ := not_or.1 (mt mem_keys_cons.2 missing)
      simp only [values, if_neg (Ne.symm other), ih missing]

theorem values_append (key : κ) (first second : Grouping κ α) :
    values key (first ++ second) =
      if key ∈ first.keys then first.values key else second.values key := by
  induction first with
  | nil => rfl
  | cons group rest ih =>
      obtain ⟨known, held⟩ := group
      by_cases here : known = key
      · simp [values, mem_keys_cons, here]
      · simp [values, mem_keys_cons, here, Ne.symm here, ih]

theorem values_map_append {key : κ} {groups : Grouping κ α} (known : key ∈ groups.keys)
    (more : κ → List α) :
    values key (groups.map fun group => (group.1, group.2 ++ more group.1)) =
      groups.values key ++ more key := by
  induction groups with
  | nil => cases known
  | cons group rest ih =>
      obtain ⟨first, held⟩ := group
      by_cases here : first = key
      · simp [values, here]
      · have later : key ∈ keys rest := (mem_keys_cons.1 known).resolve_left (Ne.symm here)
        simp [values, here, ih later]

theorem values_filter_new {key : κ} {known : List κ} (new : key ∉ known) (groups : Grouping κ α) :
    values key (groups.filter fun group => group.1 ∉ known) = groups.values key := by
  induction groups with
  | nil => rfl
  | cons group rest ih =>
      obtain ⟨first, held⟩ := group
      rw [List.filter_cons]
      by_cases here : first = key
      · simp [values, here, new]
      · split <;> simp only [values, if_neg here, ih]

theorem keys_map_append {ι β : Type} (more : ι → List β) (groups : Grouping ι β) :
    keys (groups.map fun group => (group.1, group.2 ++ more group.1)) = groups.keys := by
  simp [keys]

theorem values_merge (key : κ) (first second : Grouping κ α) :
    (first.merge second).values key = first.values key ++ second.values key := by
  rw [merge, values_append, keys_map_append fun key => second.values key]
  split
  · next known => exact values_map_append known fun key => second.values key
  · next new => rw [values_filter_new new, values_eq_nil new, List.nil_append]

theorem keys_ofPairs_append (first second : List (κ × α)) :
    (ofPairs (first ++ second)).keys =
      (ofPairs first).keys ++ (ofPairs second).keys.filter (· ∉ (ofPairs first).keys) := by
  induction second using List.reverseRecOn with
  | nil =>
      rw [List.append_nil]
      exact (List.append_nil _).symm
  | append_singleton second pair ih =>
      rw [← List.append_assoc, ofPairs_concat, keys_add, ih, ofPairs_concat, keys_add]
      by_cases old : pair.1 ∈ (ofPairs first).keys
      · by_cases known : pair.1 ∈ (ofPairs second).keys <;> simp [old, known]
      · by_cases known : pair.1 ∈ (ofPairs second).keys <;> simp [old, known]

/-- Pairs that come later join the groups of those before. -/
theorem ofPairs_append (first second : List (κ × α)) :
    ofPairs (first ++ second) = (ofPairs first).merge (ofPairs second) := by
  apply eq_of_keys_of_values
  · exact keys_nodup_ofPairs (first ++ second)
  · rw [keys_merge, keys_ofPairs_append]
  · intro key
    rw [values_merge]
    simp only [values_ofPairs, valuesOf_append]

/-!
### Keys under other names
-/

variable {ι : Type} [DecidableEq ι]

def rename (name : κ → ι) (groups : Grouping κ α) : Grouping ι α :=
  groups.map fun group => (name group.1, group.2)

theorem rename_add {name : κ → ι} (injective : Function.Injective name) (key : κ) (value : α)
    (groups : Grouping κ α) :
    (groups.add key value).rename name = (groups.rename name).add (name key) value := by
  induction groups with
  | nil => rfl
  | cons group rest ih =>
      obtain ⟨first, held⟩ := group
      by_cases same : first = key
      · simp [add, rename, same]
      · have apart : name first ≠ name key := fun h => same (injective h)
        simp only [rename] at ih
        simp [add, rename, same, apart, ih]

theorem rename_ofPairs {name : κ → ι} (injective : Function.Injective name)
    (pairs : List (κ × α)) :
    (ofPairs pairs).rename name = ofPairs (pairs.map fun pair => (name pair.1, pair.2)) := by
  induction pairs using List.reverseRecOn with
  | nil => rfl
  | append_singleton pairs pair ih =>
      rw [ofPairs_concat, rename_add injective, ih, List.map_append, List.map_singleton,
        ofPairs_concat]

/-!
### Other values
-/

variable {β : Type}

/-- The groups with every value replaced. -/
def mapValues (f : α → β) (groups : Grouping κ α) : Grouping κ β :=
  groups.map fun group => (group.1, group.2.map f)

theorem mapValues_add (f : α → β) (key : κ) (value : α) (groups : Grouping κ α) :
    (groups.add key value).mapValues f = (groups.mapValues f).add key (f value) := by
  induction groups with
  | nil => rfl
  | cons group rest ih =>
      obtain ⟨first, held⟩ := group
      simp only [mapValues] at ih
      by_cases same : first = key
      · simp [add, mapValues, same]
      · simp [add, mapValues, same, ih]

theorem mapValues_ofPairs (f : α → β) (pairs : List (κ × α)) :
    (ofPairs pairs).mapValues f = ofPairs (pairs.map fun pair => (pair.1, f pair.2)) := by
  induction pairs using List.reverseRecOn with
  | nil => rfl
  | append_singleton pairs pair ih =>
      rw [ofPairs_concat, mapValues_add, ih, List.map_append, List.map_singleton, ofPairs_concat]

end Grouping

end FacetedSearch
