/-
Module: FacetedSearch.Proofs.Query.Joined
Purpose: Words written one after the other with white space between them, and what the scan makes
  of them: if every word is a run, the runs are the words.
Imports: FacetedSearch.Proofs.Query.Boundary
Main exports: Query.White, Query.Joined, Query.joined_intercalate, Query.runs_joined
-/
import FacetedSearch.Proofs.Query.Boundary

namespace FacetedSearch

namespace Query

open Text

/-- Nothing but white space, perhaps nothing at all. -/
def White (gap : Text) : Prop := ∀ c ∈ gap, isSpace c = true

instance (gap : Text) : Decidable (White gap) :=
  decidable_of_iff (gap.all isSpace = true) List.all_eq_true

/-- The words in order, with white space between any two of them and none around them. -/
inductive Joined : List Text → Text → Prop where
  | none : Joined [] []
  | one (word : Text) : Joined [word] word
  | more {word next : Text} {words : List Text} {gap body : Text} (white : White gap)
      (apart : gap ≠ []) (rest : Joined (next :: words) body) :
      Joined (word :: next :: words) (word ++ (gap ++ body))

/-- Any white space may be put between the words, the same everywhere. -/
theorem joined_intercalate {gap : Text} (white : White gap) (apart : gap ≠ []) :
    ∀ words, Joined words (gap.intercalate words)
  | [] => .none
  | [word] => by
      rw [List.intercalate_singleton]
      exact .one word
  | word :: next :: words => by
      rw [List.intercalate_cons_cons, List.append_assoc]
      exact .more white apart (joined_intercalate white apart (next :: words))

theorem runs_white_append {gap : Text} (white : White gap) (rest : Text) :
    runs (gap ++ rest) = runs rest := by
  induction gap with
  | nil => rfl
  | cons c gap ih =>
      obtain ⟨space, white⟩ := List.forall_mem_cons.1 white
      rw [List.cons_append, runs_leftOut (Or.inl space)]
      exact ih white

theorem runs_white {gap : Text} (white : White gap) : runs gap = [] := by
  have passed := runs_white_append white []
  rwa [List.append_nil] at passed

theorem stops_white {gap : Text} (white : White gap) : Stops gap := by
  intro c rest front
  apply Or.inl
  apply white
  rw [front]
  exact List.mem_cons_self ..

theorem stops_white_append {gap : Text} (white : White gap) (apart : gap ≠ []) (rest : Text) :
    Stops (gap ++ rest) := by
  cases gap with
  | nil => exact absurd rfl apart
  | cons c gap => exact stops_cons (Or.inl (white c (List.mem_cons_self ..)))

/-- Words that are runs are read back from white space. -/
theorem runs_joined {words : List Text} {before body after : Text} (joined : Joined words body)
    (isRun : ∀ word ∈ words, IsRun word) (before_white : White before)
    (after_white : White after) : runs (before ++ (body ++ after)) = words := by
  rw [runs_white_append before_white]
  induction joined with
  | none => exact runs_white after_white
  | one word =>
      have first : IsRun word := isRun word (List.mem_cons_self ..)
      rw [runs_append first (stops_white after_white), runs_white after_white]
  | @more word next words gap body white apart rest ih =>
      obtain ⟨first, others⟩ := List.forall_mem_cons.1 isRun
      have behind : word ++ (gap ++ body) ++ after = word ++ (gap ++ (body ++ after)) := by simp
      rw [behind, runs_append first (stops_white_append white apart _),
        runs_white_append white, ih others]

end Query

end FacetedSearch
