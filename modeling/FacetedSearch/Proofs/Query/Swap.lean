/-
Module: FacetedSearch.Proofs.Query.Swap
Purpose: The two quote marks are interchangeable in a search text. Exchanging them keeps the kind of
  every character, so it turns pieces into pieces and characters that are left out into such
  characters; no name of a field holds a mark, so a word and the same word with the marks exchanged
  are read in the same way. Runs and tokens are therefore those of the text, with the marks exchanged.
Imports: FacetedSearch.Proofs.Query.Conservation, FacetedSearch.Proofs.Quoting
Main exports: Text.swapMark, Text.swapMarks, Query.runs_swapMarks, Query.unquote_swapMarks,
  Query.Term.swapMarks, Query.Term.ofText_swapMarks, Query.tokens_swapMarks
-/
import FacetedSearch.Proofs.Query.Conservation
import FacetedSearch.Proofs.Quoting

namespace FacetedSearch

namespace Text

/-!
### The exchange

It is its own inverse, so what holds of every text with the marks exchanged holds of every text.
-/

/-- Each quote mark becomes the other one; no other character changes. -/
def swapMark (c : Char) : Char :=
  if c = '"' then '\'' else if c = '\'' then '"' else c

/-- A text with its quote marks exchanged. -/
def swapMarks (text : Text) : Text := text.map swapMark

theorem swapMark_of_not_quote {c : Char} (not_quote : isQuote c = false) : swapMark c = c := by
  simp only [isQuote, Bool.or_eq_false_iff, beq_eq_false_iff_ne] at not_quote
  rw [swapMark, if_neg not_quote.1, if_neg not_quote.2]

theorem swapMark_involutive : Function.Involutive swapMark := by
  intro c
  cases quote : isQuote c with
  | false => rw [swapMark_of_not_quote quote, swapMark_of_not_quote quote]
  | true =>
      rcases isQuote_iff.1 quote with rfl | rfl <;> rfl

@[simp] theorem isQuote_swapMark (c : Char) : isQuote (swapMark c) = isQuote c := by
  cases quote : isQuote c with
  | false => rw [swapMark_of_not_quote quote, quote]
  | true =>
      rcases isQuote_iff.1 quote with rfl | rfl <;> rfl

@[simp] theorem isSpace_swapMark (c : Char) : isSpace (swapMark c) = isSpace c := by
  cases quote : isQuote c with
  | false => rw [swapMark_of_not_quote quote]
  | true =>
      have swapped : isQuote (swapMark c) = true := by rw [isQuote_swapMark, quote]
      rw [isSpace_eq_false_of_isQuote quote, isSpace_eq_false_of_isQuote swapped]

@[simp] theorem swapMarks_nil : swapMarks [] = [] := rfl

@[simp] theorem swapMarks_cons (c : Char) (text : Text) :
    swapMarks (c :: text) = swapMark c :: swapMarks text := rfl

@[simp] theorem swapMarks_append (front back : Text) :
    swapMarks (front ++ back) = swapMarks front ++ swapMarks back := List.map_append

@[simp] theorem length_swapMarks (text : Text) : (swapMarks text).length = text.length :=
  List.length_map _

theorem swapMarks_involutive : Function.Involutive swapMarks := by
  intro text
  rw [swapMarks, swapMarks, List.map_map, swapMark_involutive.comp_self, List.map_id]

theorem swapMarks_eq_nil_iff {text : Text} : swapMarks text = [] ↔ text = [] := List.map_eq_nil_iff

theorem swapMark_mem_iff {c : Char} {text : Text} : swapMark c ∈ swapMarks text ↔ c ∈ text :=
  List.mem_map_of_injective swapMark_involutive.injective

theorem mem_swapMarks_iff {c : Char} (not_quote : isQuote c = false) {text : Text} :
    c ∈ swapMarks text ↔ c ∈ text := by
  nth_rewrite 1 [← swapMark_of_not_quote not_quote]
  exact swapMark_mem_iff

/-- A text without quote marks has none to exchange. -/
theorem swapMarks_of_not_quote {text : Text} (free : ∀ c ∈ text, isQuote c = false) :
    swapMarks text = text := by
  calc swapMarks text
      = text.map id := List.map_congr_left fun c mem => swapMark_of_not_quote (free c mem)
    _ = text := List.map_id text

/-- A cut at a character that is no quote mark is where it was. -/
theorem cut?_swapMarks {c : Char} (not_quote : isQuote c = false) (text : Text) :
    (swapMarks text).cut? c =
      (text.cut? c).map fun sides => (swapMarks sides.1, swapMarks sides.2) := by
  cases cut : text.cut? c with
  | none =>
      rw [cut?_eq_none_iff] at cut
      rw [Option.map_none, cut?_eq_none_iff, mem_swapMarks_iff not_quote]
      exact cut
  | some sides =>
      obtain ⟨left, right⟩ := sides
      obtain ⟨rfl, first⟩ := cut?_eq_some_iff.1 cut
      rw [Option.map_some, cut?_eq_some_iff, mem_swapMarks_iff not_quote, swapMarks_append,
        swapMarks_cons, swapMark_of_not_quote not_quote]
      exact ⟨rfl, first⟩

end Text

namespace Query

open Text

/-!
### Runs
-/

theorem LeftOut.swapMarks {c : Char} {later : Text} (out : LeftOut c later) :
    LeftOut (swapMark c) later.swapMarks := by
  unfold LeftOut
  rw [isSpace_swapMark, isQuote_swapMark, swapMark_mem_iff]
  exact out

theorem Piece.swapMarks {piece : Text} (h : Piece piece) : Piece piece.swapMarks := by
  cases h with
  | @plain c not_space not_quote =>
      apply Piece.plain
      · rw [isSpace_swapMark, not_space]
      · rw [isQuote_swapMark, not_quote]
  | @span mark body quote closed =>
      rw [swapMarks_append, swapMarks_cons]
      apply Piece.span
      · rw [isQuote_swapMark, quote]
      · rwa [swapMark_mem_iff]

theorem toList_swapMarks (first : Text) (later : List Text) :
    Cut.toList (first.swapMarks, later.map Text.swapMarks) =
      (Cut.toList (first, later)).map Text.swapMarks := by
  unfold Cut.toList
  by_cases empty : first = []
  · simp only [empty, swapMarks_nil, if_true]
  · have not_empty : first.swapMarks ≠ [] := fun none => empty (swapMarks_eq_nil_iff.1 none)
    simp only [if_neg empty, if_neg not_empty, List.map_cons]

theorem scan_swapMarks (text : Text) :
    scan .between text.swapMarks =
      ((scan .between text).1.swapMarks, (scan .between text).2.map Text.swapMarks) := by
  induction text using boundary_induction with
  | nil => rfl
  | skip c rest out ih =>
      rw [swapMarks_cons, scan_leftOut out.swapMarks, scan_leftOut out, ih]
      unfold Cut.skip
      rw [toList_swapMarks]
      rfl
  | piece piece rest h ih =>
      rw [swapMarks_append, scan_piece h.swapMarks, scan_piece h, ih, swapMarks_append]

theorem runs_swapMarks (text : Text) : runs text.swapMarks = (runs text).map Text.swapMarks := by
  unfold runs
  rw [scan_swapMarks, toList_swapMarks]

/-!
### Out of quotes

A text that loses its marks still does when they are exchanged.  So one that does not lose any keeps
all: otherwise it would, after a second exchange.
-/

theorem unquote_swapMarks_of_quoted {mark : Char} (quote : isQuote mark = true) (body : Text) :
    unquote (Text.swapMarks (mark :: body ++ [mark])) = body.swapMarks := by
  have swapped : isQuote (swapMark mark) = true := by rw [isQuote_swapMark, quote]
  rw [swapMarks_append, swapMarks_cons]
  exact unquote_quoted swapped body.swapMarks

theorem unquote_swapMarks (text : Text) : unquote text.swapMarks = (unquote text).swapMarks := by
  rcases unquote_cases text with same | ⟨mark, body, quote, rfl, inner⟩
  · rcases unquote_cases text.swapMarks with swapped_same | ⟨mark, body, quote, swapped, _⟩
    · rw [swapped_same, same]
    · exfalso
      have whole : text = Text.swapMarks (mark :: body ++ [mark]) := by
        rw [← swapped, swapMarks_involutive]
      have shorter := congrArg List.length same
      rw [whole, unquote_swapMarks_of_quoted quote, length_swapMarks, length_swapMarks,
        List.length_append, List.length_cons, List.length_singleton] at shorter
      omega
  · rw [inner, unquote_swapMarks_of_quoted quote]

/-!
### Terms
-/

/-- A term with the quote marks in its value exchanged. -/
def Term.swapMarks : Term → Term
  | .tagged field value => .tagged field value.swapMarks
  | .free text => .free text.swapMarks

theorem Field.swapMarks_name (field : Field) : field.name.swapMarks = field.name := by
  apply swapMarks_of_not_quote
  intro c mem
  exact (isPlain_iff.1 (List.all_eq_true.1 field.name_plain c mem)).2

theorem Field.ofName?_swapMarks (name : Text) :
    Field.ofName? name.swapMarks = Field.ofName? name := by
  ext field
  rw [Field.ofName?_eq_some_iff, Field.ofName?_eq_some_iff, swapMarks_involutive.eq_iff,
    field.swapMarks_name]

theorem Term.ofText_swapMarks (word : Text) :
    Term.ofText word.swapMarks = (Term.ofText word).swapMarks := by
  unfold Term.ofText
  rw [cut?_swapMarks (by decide)]
  cases word.cut? ':' with
  | none => rfl
  | some sides =>
      simp only [Option.map_some, Field.ofName?_swapMarks]
      cases Field.ofName? sides.1 <;> rfl

theorem Term.toText_swapMarks (term : Term) : term.swapMarks.toText = term.toText.swapMarks := by
  cases term with
  | free text => rfl
  | tagged field value =>
      have colon : swapMark ':' = ':' := rfl
      simp only [Term.swapMarks, Term.toText, swapMarks_append, swapMarks_cons,
        field.swapMarks_name, colon]

theorem Term.unquoteValue_swapMarks (term : Term) :
    term.swapMarks.unquoteValue = term.unquoteValue.swapMarks := by
  cases term with
  | free text => rfl
  | tagged field value =>
      simp only [Term.swapMarks, Term.unquoteValue, unquote_swapMarks]

/-!
### Tokens
-/

theorem tokenOfRun?_swapMarks (run : Text) :
    tokenOfRun? run.swapMarks = (tokenOfRun? run).map Text.swapMarks := by
  unfold tokenOfRun?
  simp only [unquote_swapMarks, swapMarks_eq_nil_iff, Term.ofText_swapMarks,
    Term.unquoteValue_swapMarks, Term.toText_swapMarks]
  split <;> rfl

theorem tokens_swapMarks (text : Text) :
    tokens text.swapMarks = (tokens text).map Text.swapMarks := by
  unfold tokens
  rw [runs_swapMarks, List.filterMap_map, List.map_filterMap]
  apply List.filterMap_congr
  intro run _
  exact tokenOfRun?_swapMarks run

end Query

end FacetedSearch
