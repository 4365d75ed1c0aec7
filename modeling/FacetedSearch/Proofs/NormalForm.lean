/-
Module: FacetedSearch.Proofs.NormalForm
Purpose: Search texts in normal form. The scan gives a text back whole exactly when the text is a run,
  and it reads runs back from any white space between them: a quote mark inside a run is closed inside
  that run, so it never looks for its partner in another one. The runs of a text with one space between
  them are therefore a text with the same runs, and a search for it finds the same.
Imports: FacetedSearch.Facet.Filter, FacetedSearch.Proofs.Parameters, FacetedSearch.Proofs.Query.Joined,
  FacetedSearch.Proofs.Query.Layout
Main exports: Query.runs_eq_singleton_iff, Query.normal, Query.runs_normal, Query.normal_eq_normal_iff,
  runs_normal_form
-/
import FacetedSearch.Facet.Filter
import FacetedSearch.Proofs.Parameters
import FacetedSearch.Proofs.Query.Joined
import FacetedSearch.Proofs.Query.Layout

namespace FacetedSearch

namespace Query

/-- Runs are the texts that the scan does not take apart. -/
theorem runs_eq_singleton_iff {run : Text} : runs run = [run] ↔ IsRun run := by
  constructor
  · intro whole
    have mem : run ∈ runs run := by
      rw [whole]
      exact List.mem_singleton_self run
    exact isRun_of_mem_runs mem
  · intro isRun
    exact runs_of_isRun isRun

/-- Nothing need stand around runs for them to be read back. -/
theorem runs_of_joined {words : List Text} {body : Text} (isRun : ∀ word ∈ words, IsRun word)
    (joined : Joined words body) : runs body = words := by
  have none_around : White [] := by simp [White]
  simpa using runs_joined joined isRun none_around none_around

/-!
### The normal form

Marks that close nothing are gone, and white space outside of quotes is one space.
-/

/-- The runs of a text with one space between them. -/
def normal (text : Text) : Text := [' '].intercalate (runs text)

theorem joined_normal (text : Text) : Joined (runs text) (normal text) :=
  joined_intercalate (by decide) (by simp) (runs text)

@[simp] theorem runs_normal (text : Text) : runs (normal text) = runs text :=
  runs_of_joined (fun _ mem => isRun_of_mem_runs mem) (joined_normal text)

theorem normal_eq_normal_iff {first second : Text} :
    normal first = normal second ↔ runs first = runs second := by
  constructor
  · intro same
    calc runs first
        = runs (normal first) := (runs_normal first).symm
      _ = runs (normal second) := by rw [same]
      _ = runs second := runs_normal second
  · intro same
    simp [normal, same]

@[simp] theorem normal_normal (text : Text) : normal (normal text) = normal text :=
  normal_eq_normal_iff.2 (runs_normal text)

@[simp] theorem tokens_normal (text : Text) : tokens (normal text) = tokens text := by
  simp [tokens]

end Query

open Query

/-- A text is scanned to itself exactly when it is pieces one after the other and not empty. Such texts
are read back from white space between them. So every text has the runs of its normal form; the same
is found for both, and texts with the same runs are the texts with the same normal form. -/
theorem runs_normal_form :
    (∀ run : Text, runs run = [run] ↔ IsRun run) ∧
    (∀ (words : List Text) (body : Text), (∀ word ∈ words, IsRun word) → Joined words body →
      runs body = words) ∧
    ∀ text : Text,
      runs (normal text) = runs text ∧
      tokens (normal text) = tokens text ∧
      Backend.named (normal text) = Backend.named text ∧
      (∀ focus, Facet.filter (normal text) focus = Facet.filter text focus) ∧
      ∀ other, normal other = normal text ↔ runs other = runs text := by
  refine ⟨?fixed, ?read, ?normal⟩
  case fixed =>
    intro run
    exact runs_eq_singleton_iff
  case read =>
    intro words body isRun joined
    exact runs_of_joined isRun joined
  case normal =>
    intro text
    have same_tokens := tokens_normal text
    refine ⟨runs_normal text, same_tokens, ?_, ?_, ?_⟩
    · simp [Backend.named, Backend.parameters, same_tokens]
    · intro focus
      simp [Facet.filter, same_tokens]
    · intro other
      exact normal_eq_normal_iff

/-- An apostrophe inside a span, and one behind it that closes nothing; a quote mark that closes nothing
at the end. -/
def strayMarks : Text := "a \t\"b' c\"d' e\"f".toList

/-- Its runs. -/
def strayRuns : List Text := ["a".toList, "\"b' c\"d".toList, "e".toList, "f".toList]

theorem runs_normal_form_strayMarks :
    (∀ word ∈ strayRuns, IsRun word) ∧
      Joined strayRuns "a \"b' c\"d e f".toList ∧ runs "a \"b' c\"d e f".toList = strayRuns ∧
      runs strayMarks = strayRuns ∧ normal strayMarks = "a \"b' c\"d e f".toList ∧
      tokens "a \"b' c\"d e f".toList = tokens strayMarks := by
  obtain ⟨fixed, read, same⟩ := runs_normal_form
  have scanned : runs strayMarks = strayRuns := by decide +kernel
  have joined_up : normal strayMarks = "a \"b' c\"d e f".toList := by decide +kernel
  have isRun : ∀ word ∈ strayRuns, IsRun word := by
    intro word mem
    apply (fixed word).1
    revert word
    decide +kernel
  have joined : Joined strayRuns "a \"b' c\"d e f".toList := by
    rw [← scanned, ← joined_up]
    exact joined_normal strayMarks
  have found := (same strayMarks).2.1
  rw [joined_up] at found
  exact ⟨isRun, joined, read _ _ isRun joined, scanned, joined_up, found⟩

end FacetedSearch
