/-
Module: FacetedSearch.Proofs.Quoting
Purpose: Quoting protects values. Terms that are written with quote marks around their values and
  joined with white space are read back as they are, whatever the values hold, and reach the backend
  unchanged.
Imports: FacetedSearch.Backend, FacetedSearch.Proofs.Grouping, FacetedSearch.Proofs.Query.Joined
Main exports: Query.QuotedTerm, Query.QuotedTerm.written, Query.tokenOfRun?_written,
  Backend.read_quoted_terms
-/
import FacetedSearch.Backend
import FacetedSearch.Proofs.Grouping
import FacetedSearch.Proofs.Query.Joined

namespace FacetedSearch

namespace Query

open Text

/-- Free text is a term of its own only if there is some and it does not read as a value in a
field. -/
def Term.IsWritable : Term → Prop
  | .tagged _ _ => True
  | .free text => text ≠ [] ∧ Term.ofText text = .free text

/-- A term and a quote mark that its value does not hold. -/
structure QuotedTerm where
  term : Term
  mark : Char
  writable : term.IsWritable
  quote : isQuote mark = true
  closed : mark ∉ term.data

/-- The term in writing, with marks around its value. -/
def QuotedTerm.written (item : QuotedTerm) : Text :=
  match item.term with
  | .tagged field value => field.name ++ ':' :: (item.mark :: value ++ [item.mark])
  | .free text => item.mark :: text ++ [item.mark]

theorem Term.ofText_toText {term : Term} (writable : term.IsWritable) :
    Term.ofText term.toText = term := by
  cases term with
  | tagged field value => exact Term.ofText_toText_tagged field value
  | free text => exact writable.2

theorem Field.name_plain (field : Field) : field.name.all isPlain = true := by
  cases field <;> decide

theorem isRun_written (item : QuotedTerm) : IsRun item.written := by
  obtain ⟨term, mark, writable, quote, closed⟩ := item
  cases term with
  | free text => exact isRun_of_piece (.span quote closed)
  | tagged field value =>
      have colon : Piece [':'] := .plain (by decide) (by decide)
      have value_run : IsRun (mark :: value ++ [mark]) := isRun_of_piece (.span quote closed)
      apply isRun_append
      · exact pieces_of_plain field.name_plain
      · exact isRun_append (pieces_of_piece colon) value_run

theorem unquote_of_not_quote {c : Char} (not_quote : isQuote c = false) (rest : Text) :
    unquote (c :: rest) = c :: rest := by
  cases rest with
  | nil => rfl
  | cons d rest => simp [unquote, not_quote]

/-- A field and its value in quotes are not in quotes themselves. -/
theorem unquote_field (field : Field) (value : Text) :
    unquote (field.name ++ ':' :: value) = field.name ++ ':' :: value := by
  cases name : field.name with
  | nil => exact absurd name field.name_ne_nil
  | cons c rest =>
      have plain := field.name_plain
      rw [name, List.all_cons, Bool.and_eq_true] at plain
      exact unquote_of_not_quote (isPlain_iff.1 plain.1).2 _

/-!
Of the marks around a value exactly one pair goes, though marks go at two places: a text in quotes
loses them as a run, a value in a field as the value, for the run does not begin with a mark.
-/

theorem tokenOfRun?_quoted {mark : Char} {text : Text} (quote : isQuote mark = true)
    (writable : (Term.free text).IsWritable) :
    tokenOfRun? (mark :: text ++ [mark]) = some text := by
  rw [tokenOfRun?_eq_some_iff, unquote_quoted quote text]
  obtain ⟨not_empty, read⟩ := writable
  refine ⟨not_empty, ?_⟩
  rw [read]
  rfl

theorem tokenOfRun?_field {mark : Char} (quote : isQuote mark = true) (field : Field)
    (value : Text) :
    tokenOfRun? (field.name ++ ':' :: (mark :: value ++ [mark])) =
      some (field.name ++ ':' :: value) := by
  have read : Term.ofText (field.name ++ ':' :: (mark :: value ++ [mark])) =
      .tagged field (mark :: value ++ [mark]) := Term.ofText_toText_tagged field _
  rw [tokenOfRun?_eq_some_iff, unquote_field, read, Term.unquoteValue, unquote_quoted quote value]
  refine ⟨?_, rfl⟩
  simp

theorem tokenOfRun?_written (item : QuotedTerm) :
    tokenOfRun? item.written = some item.term.toText := by
  obtain ⟨term, mark, writable, quote, closed⟩ := item
  cases term with
  | free text => exact tokenOfRun?_quoted quote writable
  | tagged field value => exact tokenOfRun?_field quote field value

theorem tokens_joined (items : List QuotedTerm) {before body after : Text}
    (joined : Joined (items.map QuotedTerm.written) body) (before_white : White before)
    (after_white : White after) :
    tokens (before ++ (body ++ after)) = items.map fun item => item.term.toText := by
  have isRun : ∀ word ∈ items.map QuotedTerm.written, IsRun word := by
    intro word h
    obtain ⟨item, _, rfl⟩ := List.mem_map.1 h
    exact isRun_written item
  unfold tokens
  rw [runs_joined joined isRun before_white after_white]
  clear joined isRun
  induction items with
  | nil => rfl
  | cons item items ih =>
      rw [List.map_cons, List.filterMap_cons_some (tokenOfRun?_written item), ih, List.map_cons]

end Query

namespace Backend

open Query

/-- The name of the parameter that gets the value of a term. -/
def parameterName : Term → Text
  | .tagged .tag _ => "tags".toList
  | .tagged field _ => field.name
  | .free _ => "any".toList

theorem name_parameterOf (term : Term) :
    (parameterOf term.field?).name = parameterName term := by
  cases term with
  | free text => rfl
  | tagged field value => cases field <;> rfl

theorem Parameter.name_injective : Function.Injective Parameter.name := by
  intro first second same
  revert same
  cases first <;> cases second <;> decide

/-- Terms written in quotes and joined with white space are the tokens of the text, without the
quotes, and their values are grouped under the names of the parameters. -/
theorem read_quoted_terms (items : List QuotedTerm) {before body after : Text}
    (joined : Joined (items.map QuotedTerm.written) body) (before_white : White before)
    (after_white : White after) :
    tokens (before ++ (body ++ after)) = (items.map fun item => item.term.toText) ∧
      Grouping.rename Parameter.name (parameters (before ++ (body ++ after))) =
        Grouping.byKey (items.map fun item => (parameterName item.term, item.term.data)) := by
  have read := tokens_joined items joined before_white after_white
  refine ⟨read, ?_⟩
  unfold parameters
  rw [read, Grouping.rename_ofPairs Parameter.name_injective, Grouping.ofPairs_eq_byKey,
    List.map_map, List.map_map]
  congr 1
  apply List.map_congr_left
  intro item _
  simp only [Function.comp_apply, entry, Term.ofText_toText item.writable, name_parameterOf]

/-- A value that begins with the other quote mark, and a text with a colon and white space. -/
def nestedQuotes : List QuotedTerm :=
  [⟨.tagged .tag "'a b".toList, '"', trivial, by decide, by decide⟩,
    ⟨.free "x: \"y".toList, '\'', ⟨by decide, by decide⟩, by decide, by decide⟩]

theorem read_quoted_terms_nested :
    Joined (nestedQuotes.map QuotedTerm.written)
        ("tag:\"'a b\"".toList ++ (['\t', ' '] ++ "'x: \"y'".toList)) ∧
      tokens ([' '] ++ ("tag:\"'a b\"".toList ++ (['\t', ' '] ++ "'x: \"y'".toList) ++ [])) =
        ["tag:'a b".toList, "x: \"y".toList] := by
  have joined : Joined (nestedQuotes.map QuotedTerm.written)
      ("tag:\"'a b\"".toList ++ (['\t', ' '] ++ "'x: \"y'".toList)) :=
    .more (by decide) (by decide) (.one _)
  have before_white : White [' '] := by decide
  have after_white : White [] := by decide
  exact ⟨joined, (read_quoted_terms nestedQuotes joined before_white after_white).1⟩

end Backend

end FacetedSearch
