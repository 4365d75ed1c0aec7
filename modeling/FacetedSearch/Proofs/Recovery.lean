/-
Module: FacetedSearch.Proofs.Recovery
Purpose: The parameters of a search text are its tokens, grouped without loss. Each token asks one
  parameter for one value; the parameters stand in the order in which they are first asked, each with
  its values in order, and the field and the value of a token make the token again. So the parameters
  tell the tokens of each field, and all tokens up to the order between fields.
Imports: FacetedSearch.Proofs.Parameters
Main exports: Backend.Asks, Backend.asks_iff, Backend.filter_tokens_eq, Backend.tokens_perm_of_named_eq,
  Backend.named_lossless
-/
import FacetedSearch.Proofs.Parameters

namespace FacetedSearch

/-- No group is empty. -/
theorem Grouping.ne_nil_of_mem_ofPairs {κ α : Type} [DecidableEq κ] {pairs : List (κ × α)}
    {group : κ × List α} (mem : group ∈ ofPairs pairs) : group.2 ≠ [] := by
  rw [ofPairs_eq_byKey] at mem
  obtain ⟨key, known, rfl⟩ := List.mem_map.1 mem
  obtain ⟨pair, held, rfl⟩ := List.mem_map.1 (List.mem_eraseDups.1 known)
  have value : pair.2 ∈ valuesOf pair.1 pairs :=
    List.mem_map_of_mem (List.mem_filter.2 ⟨held, decide_eq_true rfl⟩)
  exact List.ne_nil_of_mem value

namespace Query

/-!
### How a word is read

A word is read as a value in a field exactly if it is written so, and otherwise as free text.
-/

theorem Term.ofText_eq_tagged_iff {word : Text} {field : Field} {value : Text} :
    Term.ofText word = .tagged field value ↔ word = field.name ++ ':' :: value := by
  constructor
  · intro read
    rw [← Term.toText_ofText word, read]
    rfl
  · rintro rfl
    exact Term.ofText_toText_tagged field value

theorem Term.ofText_eq_free_iff {word text : Text} :
    Term.ofText word = .free text ↔
      text = word ∧ ∀ (field : Field) (value : Text), word ≠ field.name ++ ':' :: value := by
  constructor
  · intro read
    have written := Term.toText_ofText word
    rw [read] at written
    refine ⟨written, ?_⟩
    intro field value same
    cases read.symm.trans (Term.ofText_eq_tagged_iff.2 same)
  · rintro ⟨rfl, unnamed⟩
    have written := Term.toText_ofText text
    cases read : Term.ofText text with
    | tagged field value => exact absurd (Term.ofText_eq_tagged_iff.1 read) (unnamed field value)
    | free other =>
        rw [read] at written
        exact congrArg Term.free written

end Query

namespace Backend

open Query

/-!
### What a token asks for

The rules name the parameter and the value that stand in a token; a token that names no field asks for
itself as a whole.
-/

/-- The names that parameters can have. -/
def parameterNames : List Text :=
  ["any".toList, "group".toList, "quote".toList, "since".toList, "tags".toList, "text".toList,
    "uri".toList, "user".toList]

theorem Parameter.name_mem_names (parameter : Parameter) : parameter.name ∈ parameterNames := by
  cases parameter <;> decide

/-- A token asks the parameter of a name for a value. -/
inductive Asks : Text → Text → Text → Prop where
  | tag (value : Text) : Asks ("tag:".toList ++ value) "tags".toList value
  | field {field : Field} (other : field ≠ .tag) (value : Text) :
      Asks (field.name ++ ':' :: value) field.name value
  | free {token : Text} (unnamed : ∀ (field : Field) (value : Text),
      token ≠ field.name ++ ':' :: value) : Asks token "any".toList token

theorem asks_iff {token name value : Text} :
    Asks token name value ↔ namedEntry (Term.ofText token) = (name, value) := by
  constructor
  · intro asks
    cases asks with
    | tag =>
        have read := Term.ofText_toText_tagged .tag value
        exact congrArg namedEntry read
    | @field field other value =>
        have read := Term.ofText_toText_tagged field value
        rw [Term.toText] at read
        rw [read, namedEntry, name_parameterOf]
        cases field with
        | tag => exact absurd rfl other
        | group | quote | since | text | uri | user => rfl
    | free unnamed =>
        rw [Term.ofText_eq_free_iff.2 ⟨rfl, unnamed⟩]
        rfl
  · intro entry
    cases term : Term.ofText token with
    | tagged field held =>
        obtain rfl := Term.ofText_eq_tagged_iff.1 term
        rw [term] at entry
        cases entry
        cases field with
        | tag => exact .tag held
        | group | quote | since | text | uri | user => exact .field (by decide) held
    | free text =>
        obtain ⟨rfl, unnamed⟩ := Term.ofText_eq_free_iff.1 term
        rw [term] at entry
        cases entry
        exact .free unnamed

/-- A list of entries is what the tokens ask for exactly if it is read off them one by one. -/
theorem forall₂_asks_iff {tokens : List Text} {entries : List (Text × Text)} :
    List.Forall₂ (fun token entry => Asks token entry.1 entry.2) tokens entries ↔
      entries = tokens.map fun token => namedEntry (Term.ofText token) := by
  simp only [asks_iff, Prod.mk.eta]
  rw [List.forall₂_map_left_iff.symm, List.forall₂_eq_eq_eq]
  exact eq_comm

/-!
### Recovering tokens
-/

/-- The token that asks for a value in a field, or for free text. -/
def written : Option Field → Text → Text
  | some field, value => field.name ++ ':' :: value
  | none, text => text

theorem written_data (term : Term) : written term.field? term.data = term.toText := by
  cases term <;> rfl

/-- The tokens of a field are told by the values of its parameter. -/
theorem filter_tokens_eq (field? : Option Field) (text : Text) :
    (tokens text).filter (fun token => (Term.ofText token).field? = field?) =
      ((named text).values (parameterOf field?).name).map (written field?) := by
  rw [values_named, terms, List.filterMap_map, List.map_filterMap, ← List.filterMap_eq_filter]
  apply List.filterMap_congr
  intro token _
  unfold asked?
  by_cases same : (Term.ofText token).field? = field?
  · have again : written field? (Term.ofText token).data = token := by
      rw [← same, written_data, Term.toText_ofText]
    simp [same, again]
  · have other : parameterOf (Term.ofText token).field? ≠ parameterOf field? :=
      fun asked => same (parameterOf_injective asked)
    simp [same, other]

theorem filter_tokens_of_named_eq {first second : Text} (same : named first = named second)
    (field? : Option Field) :
    (tokens first).filter (fun token => (Term.ofText token).field? = field?) =
      (tokens second).filter (fun token => (Term.ofText token).field? = field?) := by
  rw [filter_tokens_eq, filter_tokens_eq, same]

theorem tokens_perm_of_named_eq {first second : Text} (same : named first = named second) :
    (tokens first).Perm (tokens second) := by
  rw [List.perm_iff_count]
  intro token
  -- A token is counted among those of its own field.
  have fields := filter_tokens_of_named_eq same (Term.ofText token).field?
  have counts := congrArg (List.count token) fields
  rwa [List.count_filter (by simp), List.count_filter (by simp)] at counts

/-- The parameters of a search text have different names out of eight, in the order in which a token
first asks for them, and none is without values; the values of each are what its tokens ask for, in
their order, and there are as many values as tokens. Texts with the same parameters have the same
tokens in each field, in the same order, and the same tokens altogether up to their order. -/
theorem named_lossless (text : Text) :
    (named text).keys.Nodup ∧
    (∀ key ∈ (named text).keys, key ∈ parameterNames) ∧
    (∃ entries : List (Text × Text),
      List.Forall₂ (fun token entry => Asks token entry.1 entry.2) (tokens text) entries ∧
        (∀ other, List.Forall₂ (fun token entry => Asks token entry.1 entry.2) (tokens text) other →
          other = entries) ∧
        named text = Grouping.byKey entries) ∧
    (∀ group ∈ named text, group.2 ≠ []) ∧
    (named text).size = (tokens text).length ∧
    ∀ other, named other = named text → (tokens other).Perm (tokens text) ∧
      ∀ field? : Option Field,
        (tokens other).filter (fun token => (Term.ofText token).field? = field?) =
          (tokens text).filter (fun token => (Term.ofText token).field? = field?) := by
  have grouped := named_eq_ofPairs text
  refine ⟨?distinct, ?names, ?entries, ?full, ?size, ?recovered⟩
  case distinct =>
    rw [grouped]
    exact Grouping.keys_nodup_ofPairs _
  case names =>
    intro key mem
    obtain ⟨named_group, renamed, rfl⟩ := List.mem_map.1 mem
    obtain ⟨group, _, rfl⟩ := List.mem_map.1 renamed
    exact group.1.name_mem_names
  case entries =>
    have read : (terms text).map namedEntry =
        (tokens text).map fun token => namedEntry (Term.ofText token) := List.map_map
    refine ⟨(terms text).map namedEntry, forall₂_asks_iff.2 read, ?_, ?_⟩
    · intro other asked
      rw [forall₂_asks_iff.1 asked, read]
    · rw [grouped, Grouping.ofPairs_eq_byKey]
  case full =>
    intro group mem
    rw [grouped] at mem
    exact Grouping.ne_nil_of_mem_ofPairs mem
  case size => rw [grouped, Grouping.size_ofPairs, List.length_map, terms, List.length_map]
  case recovered =>
    intro other same
    exact ⟨tokens_perm_of_named_eq same, filter_tokens_of_named_eq same⟩

/-- A tag with a colon and a quote mark in its value, between two free words. -/
def tagBetween : Text := "a tag:\"x: 'y\" b".toList

/-- The same words with the tag at the end. -/
def tagBehind : Text := "a b tag:\"x: 'y\"".toList

theorem named_lossless_reordered :
    named tagBetween = named tagBehind ∧ tokens tagBetween ≠ tokens tagBehind ∧
      (tokens tagBetween).Perm (tokens tagBehind) := by
  have same : named tagBetween = named tagBehind := by decide +kernel
  obtain ⟨_, _, _, _, _, recovered⟩ := named_lossless tagBehind
  exact ⟨same, by decide +kernel, (recovered tagBetween same).1⟩

end Backend

end FacetedSearch
