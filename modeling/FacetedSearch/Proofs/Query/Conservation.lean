/-
Module: FacetedSearch.Proofs.Query.Conservation
Purpose: Cutting a text into tokens loses, doubles and reorders no word. Characters go in four
  places: in the gaps between runs, as the marks around a run, as a run that is nothing but two
  marks, and as the marks around a value. Each place only strips white space and quote marks, and
  stripping composes.
Imports: FacetedSearch.Proofs.Query.Boundary, FacetedSearch.Query.Token
Main exports: Query.Strips, Query.strips_unquote, Query.strips_runs,
  Query.tokens_conserve_plain
-/
import FacetedSearch.Proofs.Query.Boundary
import FacetedSearch.Query.Token

namespace FacetedSearch

namespace Query

open Text

/-- `small` is `large` with some white space and quote marks taken out. -/
structure Strips (small large : Text) : Prop where
  sublist : small.Sublist large
  plain_eq : small.filter isPlain = large.filter isPlain

namespace Strips

theorem refl (text : Text) : Strips text text := ⟨List.Sublist.refl text, rfl⟩

theorem trans {small middle large : Text} (first : Strips small middle)
    (second : Strips middle large) : Strips small large := by
  constructor
  · exact first.sublist.trans second.sublist
  · exact first.plain_eq.trans second.plain_eq

theorem append {small large small' large' : Text} (first : Strips small large)
    (second : Strips small' large') : Strips (small ++ small') (large ++ large') := by
  constructor
  · exact first.sublist.append second.sublist
  · rw [List.filter_append, List.filter_append, first.plain_eq, second.plain_eq]

/-- Only characters that are not plain can be stripped. -/
theorem drop {c : Char} (not_plain : isPlain c = false) : Strips [] [c] := by
  constructor
  · exact List.nil_sublist _
  · simp [not_plain]

end Strips

theorem isPlain_eq_false_of_isQuote {c : Char} (quote : isQuote c = true) : isPlain c = false := by
  simp [isPlain, quote]

theorem isPlain_eq_false_of_leftOut {c : Char} {later : Text} (out : LeftOut c later) :
    isPlain c = false := by
  rcases out with space | ⟨quote, _⟩
  · simp [isPlain, space]
  · exact isPlain_eq_false_of_isQuote quote

/-!
### Out of quotes
-/

/-- Taking a text out of quotes changes nothing, or removes the two equal marks around it. -/
theorem unquote_cases (text : Text) :
    unquote text = text ∨
      ∃ mark body, isQuote mark = true ∧ text = mark :: body ++ [mark] ∧ unquote text = body := by
  match text with
  | [] => exact Or.inl rfl
  | [_] => exact Or.inl rfl
  | first :: second :: rest =>
      by_cases marks : isQuote first = true ∧ (second :: rest).getLast? = some first
      · right
        have inner : unquote (first :: second :: rest) = (second :: rest).dropLast := by
          simp [unquote, marks.1, marks.2]
        refine ⟨first, (second :: rest).dropLast, marks.1, ?_, inner⟩
        rw [List.cons_append, List.dropLast_append_getLast? first marks.2]
      · left
        have kept : (isQuote first && (second :: rest).getLast? == some first) = false := by
          rw [Bool.eq_false_iff]
          intro both
          rw [Bool.and_eq_true, beq_iff_eq] at both
          exact marks both
        simp only [unquote, kept]
        rfl

theorem strips_unquote (text : Text) : Strips (unquote text) text := by
  rcases unquote_cases text with same | ⟨mark, body, quote, rfl, inner⟩
  · rw [same]
    exact Strips.refl text
  · have drop : Strips [] [mark] := Strips.drop (isPlain_eq_false_of_isQuote quote)
    have around : Strips ([] ++ body ++ []) ([mark] ++ body ++ [mark]) :=
      (drop.append (Strips.refl body)).append drop
    rw [List.nil_append, List.append_nil] at around
    rw [inner]
    exact around

theorem strips_unquoteValue (term : Term) : Strips term.unquoteValue.toText term.toText := by
  cases term with
  | free text => exact Strips.refl text
  | tagged field value =>
      have value_kept : Strips (':' :: unquote value) (':' :: value) :=
        (Strips.refl [':']).append (strips_unquote value)
      apply Strips.append
      · exact Strips.refl field.name
      · exact value_kept

/-!
### Tokens of runs
-/

theorem strips_of_tokenOfRun?_none {run : Text} (h : tokenOfRun? run = none) : Strips [] run := by
  have strips := strips_unquote run
  rwa [tokenOfRun?_eq_none_iff.1 h] at strips

theorem strips_of_tokenOfRun?_some {run token : Text} (h : tokenOfRun? run = some token) :
    Strips token run := by
  obtain ⟨_, rfl⟩ := tokenOfRun?_eq_some_iff.1 h
  have value := strips_unquoteValue (Term.ofText (unquote run))
  rw [Term.toText_ofText] at value
  exact value.trans (strips_unquote run)

theorem ne_nil_of_tokenOfRun? {run token : Text} (h : tokenOfRun? run = some token) :
    token ≠ [] := by
  obtain ⟨word_ne_nil, rfl⟩ := tokenOfRun?_eq_some_iff.1 h
  have read := Term.toText_ofText (unquote run)
  cases term : Term.ofText (unquote run) with
  | tagged field value => simp [Term.unquoteValue, Term.toText]
  | free text =>
      rw [term] at read
      rw [← read] at word_ne_nil
      exact word_ne_nil

theorem strips_tokens (runs : List Text) :
    Strips (runs.filterMap tokenOfRun?).flatten runs.flatten := by
  induction runs with
  | nil => exact Strips.refl []
  | cons run runs ih =>
      rw [List.filterMap_cons, List.flatten_cons]
      cases token : tokenOfRun? run with
      | none => exact (strips_of_tokenOfRun?_none token).append ih
      | some token' => exact (strips_of_tokenOfRun?_some token).append ih

/-!
### The whole text
-/

theorem strips_runs (text : Text) : Strips (runs text).flatten text := by
  induction text using boundary_induction with
  | nil => exact Strips.refl []
  | skip c rest out ih =>
      rw [runs_leftOut out]
      have drop : Strips [] [c] := Strips.drop (isPlain_eq_false_of_leftOut out)
      exact drop.append ih
  | piece piece rest h ih =>
      rw [flatten_runs_piece h]
      apply Strips.append
      · exact Strips.refl piece
      · exact ih

theorem sublist_of_mem_runs {text run : Text} (mem : run ∈ runs text) : run.Sublist text :=
  (List.sublist_flatten_of_mem mem).trans (strips_runs text).sublist

theorem sublist_of_mem_tokens {text token : Text} (mem : token ∈ tokens text) :
    token.Sublist text := by
  have strips := (strips_tokens (runs text)).trans (strips_runs text)
  exact (List.sublist_flatten_of_mem mem).trans strips.sublist

/-- Tokens hold characters of the text in their order, and all that are neither white space nor a
quote mark; and there is no empty token. -/
theorem tokens_conserve_plain (text : Text) :
    (tokens text).flatten.filter isPlain = text.filter isPlain ∧
      (tokens text).flatten.Sublist text ∧ [] ∉ tokens text := by
  have strips : Strips (tokens text).flatten text :=
    (strips_tokens (runs text)).trans (strips_runs text)
  refine ⟨strips.plain_eq, strips.sublist, ?_⟩
  intro empty
  obtain ⟨run, _, token⟩ := List.mem_filterMap.1 empty
  exact ne_nil_of_tokenOfRun? token rfl

end Query

end FacetedSearch
