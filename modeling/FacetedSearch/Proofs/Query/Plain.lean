/-
Module: FacetedSearch.Proofs.Query.Plain
Purpose: Words without white space and quote marks. Nothing is taken out of such a word, so it is its
  own and only token.
Imports: FacetedSearch.Proofs.Quoting
Main exports: Query.tokenOfRun?_of_plain, Query.tokens_of_plain, Query.isPlain_of_isDigit
-/
import FacetedSearch.Proofs.Quoting

namespace FacetedSearch

namespace Query

theorem unquote_of_plain {text : Text} (plain : text.all isPlain = true) : unquote text = text := by
  cases text with
  | nil => rfl
  | cons c rest =>
      rw [List.all_cons, Bool.and_eq_true] at plain
      exact unquote_of_not_quote (isPlain_iff.1 plain.1).2 rest

theorem unquoteValue_of_plain {word : Text} (plain : word.all isPlain = true) :
    (Term.ofText word).unquoteValue.toText = word := by
  have written := Term.toText_ofText word
  cases term : Term.ofText word with
  | free text =>
      rw [term] at written
      exact written
  | tagged field value =>
      rw [term] at written
      have value_plain : value.all isPlain = true := by
        rw [← written, Term.toText, List.all_append, List.all_cons] at plain
        simp only [Bool.and_eq_true] at plain
        exact plain.2.2
      rw [Term.unquoteValue, unquote_of_plain value_plain]
      exact written

theorem tokenOfRun?_of_plain {word : Text} (plain : word.all isPlain = true)
    (not_empty : word ≠ []) : tokenOfRun? word = some word := by
  rw [tokenOfRun?_eq_some_iff, unquote_of_plain plain]
  exact ⟨not_empty, unquoteValue_of_plain plain⟩

theorem runs_of_plain {word : Text} (plain : word.all isPlain = true) (not_empty : word ≠ []) :
    runs word = [word] :=
  runs_of_isRun ⟨pieces_of_plain plain, not_empty⟩

theorem tokens_of_plain {word : Text} (plain : word.all isPlain = true) (not_empty : word ≠ []) :
    tokens word = [word] := by
  unfold tokens
  rw [runs_of_plain plain not_empty, List.filterMap_cons_some (tokenOfRun?_of_plain plain not_empty)]
  rfl

theorem isPlain_of_isDigit {c : Char} (digit : c.isDigit = true) : isPlain c = true := by
  have no_digit : Text.spaces.all (fun space => !space.isDigit) = true := by decide
  rw [isPlain_iff]
  constructor
  · rw [Bool.eq_false_iff]
    intro space
    have not_digit := List.all_eq_true.1 no_digit c (List.contains_iff_mem.1 space)
    rw [digit] at not_digit
    cases not_digit
  · rw [Bool.eq_false_iff]
    intro quote
    rcases Text.isQuote_iff.1 quote with rfl | rfl <;> cases digit

end Query

end FacetedSearch
