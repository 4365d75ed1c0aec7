/-
Module: FacetedSearch.Proofs.Query.Splitting
Purpose: Without quote marks a search text is split at its white space and nowhere else. The scan keeps
  the first part of the split as the run under way and the parts behind it that are not empty as the
  runs after it; each run is then a plain word, which is its own token. So plain words are read back
  from any white space around them.
Imports: FacetedSearch.Proofs.Query.Conservation, FacetedSearch.Proofs.Query.Layout,
  FacetedSearch.Proofs.Query.Plain
Main exports: Query.MarkFree, Query.scan_of_markFree, Query.runs_of_markFree, Query.IsWord,
  Query.tokens_of_words, Query.plain_text_split
-/
import FacetedSearch.Proofs.Query.Conservation
import FacetedSearch.Proofs.Query.Layout
import FacetedSearch.Proofs.Query.Plain

namespace FacetedSearch

namespace Query

open Text

/-- No character of the text is a quote mark. -/
def MarkFree (text : Text) : Prop := ∀ c ∈ text, isQuote c = false

instance (text : Text) : Decidable (MarkFree text) :=
  decidable_of_iff (text.all (fun c => !isQuote c) = true) (by simp [MarkFree])

/-!
### The scan as a split

A split has one part more than there are separators; the scan has a run under way, perhaps an empty
one, and the runs after it.  Both grow in the same way at the front.
-/

theorem toList_filter (first : Text) (later : List Text) :
    Cut.toList (first, later.filter (· ≠ [])) = (first :: later).filter (· ≠ []) := by
  unfold Cut.toList
  by_cases empty : first = []
  · simp [empty]
  · simp [empty]

theorem scan_of_markFree {text : Text} (free : MarkFree text) :
    ∃ later, text.splitOnP isSpace = (scan .between text).1 :: later ∧
      (scan .between text).2 = later.filter (· ≠ []) := by
  induction text with
  | nil => exact ⟨[], rfl, rfl⟩
  | cons c rest ih =>
      obtain ⟨not_quote, free⟩ := List.forall_mem_cons.1 free
      obtain ⟨later, split, runs_later⟩ := ih free
      rw [List.splitOnP_cons_eq_if_modifyHead, split]
      cases space : isSpace c with
      | true =>
          -- The run under way ends, and counts as one of the later parts.
          refine ⟨(scan .between rest).1 :: later, ?_, ?_⟩
          · rw [scan_leftOut (Or.inl space)]
            rfl
          · rw [scan_leftOut (Or.inl space), ← toList_filter, ← runs_later]
            rfl
      | false =>
          have plain : Piece [c] := .plain space not_quote
          have taken := scan_piece plain rest
          rw [List.singleton_append] at taken
          rw [taken]
          exact ⟨later, rfl, runs_later⟩

theorem runs_of_markFree {text : Text} (free : MarkFree text) :
    runs text = (text.splitOnP isSpace).filter (· ≠ []) := by
  obtain ⟨later, split, runs_later⟩ := scan_of_markFree free
  rw [split, ← toList_filter, ← runs_later]
  rfl

/-!
### Words
-/

/-- A word: something, with neither white space nor quote marks in it. -/
def IsWord (word : Text) : Prop := word ≠ [] ∧ ∀ c ∈ word, isSpace c = false ∧ isQuote c = false

theorem isWord_iff {word : Text} : IsWord word ↔ word ≠ [] ∧ word.all isPlain = true := by
  simp only [IsWord, List.all_eq_true, isPlain_iff]

instance (word : Text) : Decidable (IsWord word) := decidable_of_iff _ isWord_iff.symm

theorem IsWord.all_isPlain {word : Text} (isWord : IsWord word) : word.all isPlain = true :=
  (isWord_iff.1 isWord).2

/-- Words are tokens as they are. -/
theorem filterMap_tokenOfRun?_words {words : List Text} (isWord : ∀ word ∈ words, IsWord word) :
    words.filterMap tokenOfRun? = words := by
  calc words.filterMap tokenOfRun?
      = words.filterMap some := by
        apply List.filterMap_congr
        intro word mem
        exact tokenOfRun?_of_plain (isWord word mem).all_isPlain (isWord word mem).1
    _ = words := List.filterMap_some

/-- Without quote marks there are no spans, so all pieces are single characters. -/
theorem not_space_of_pieces {run : Text} (pieces : Pieces run) (free : MarkFree run) :
    ∀ c ∈ run, isSpace c = false := by
  induction pieces with
  | nil =>
      intro c mem
      cases mem
  | cons piece _ ih =>
      obtain ⟨piece_free, rest_free⟩ := List.forall_mem_append.1 free
      refine List.forall_mem_append.2 ⟨?_, ih rest_free⟩
      cases piece with
      | plain not_space _ =>
          intro c mem
          rw [List.mem_singleton.1 mem]
          exact not_space
      | @span mark body quote _ =>
          have not_quote : isQuote mark = false := piece_free mark List.mem_cons_self
          rw [quote] at not_quote
          cases not_quote

theorem isWord_of_mem_runs {text : Text} (free : MarkFree text) :
    ∀ run ∈ runs text, IsWord run := by
  intro run mem
  obtain ⟨pieces, not_empty⟩ := isRun_of_mem_runs mem
  have run_free : MarkFree run :=
    fun c inside => free c ((sublist_of_mem_runs mem).subset inside)
  refine ⟨not_empty, ?_⟩
  intro c inside
  exact ⟨not_space_of_pieces pieces run_free c inside, run_free c inside⟩

/-!
### Tokens
-/

theorem tokens_of_markFree {text : Text} (free : MarkFree text) : tokens text = runs text :=
  filterMap_tokenOfRun?_words (isWord_of_mem_runs free)

theorem tokens_of_words {words : List Text} {before body after : Text}
    (isWord : ∀ word ∈ words, IsWord word) (joined : Joined words body)
    (before_white : White before) (after_white : White after) :
    tokens (before ++ (body ++ after)) = words := by
  have isRun : ∀ word ∈ words, IsRun word :=
    fun word mem => ⟨pieces_of_plain (isWord word mem).all_isPlain, (isWord word mem).1⟩
  unfold tokens
  rw [runs_joined joined isRun before_white after_white, filterMap_tokenOfRun?_words isWord]

/-- The tokens of a text without quote marks are the parts between its white-space characters that
are not empty. Words with white space between and around them have just these words as tokens; so
the tokens of a text without quote marks, joined anew, give the same tokens, and each one of them
gives itself. -/
theorem plain_text_split :
    (∀ text : Text, MarkFree text → tokens text = (text.splitOnP isSpace).filter (· ≠ [])) ∧
    (∀ (words : List Text) (before body after : Text), (∀ word ∈ words, IsWord word) →
      Joined words body → White before → White after →
        tokens (before ++ (body ++ after)) = words) ∧
    ∀ text : Text, MarkFree text →
      (∀ body, Joined (tokens text) body → tokens body = tokens text) ∧
        ∀ token ∈ tokens text, tokens token = [token] := by
  refine ⟨?split, ?words, ?again⟩
  case split =>
    intro text free
    rw [tokens_of_markFree free, runs_of_markFree free]
  case words =>
    intro words before body after isWord joined before_white after_white
    exact tokens_of_words isWord joined before_white after_white
  case again =>
    intro text free
    have isWord := isWord_of_mem_runs free
    rw [tokens_of_markFree free]
    constructor
    · intro body joined
      have none_around : White [] := by decide
      have read := tokens_of_words isWord joined none_around none_around
      rwa [List.nil_append, List.append_nil] at read
    · intro token mem
      exact tokens_of_plain (isWord token mem).all_isPlain (isWord token mem).1

/-- White space at both ends and in a row, a tag without a value, and a word between colons. -/
def plainSearch : Text := " \ttag:\u00a0\n:x: a:b ".toList

theorem plain_text_split_edges :
    MarkFree plainSearch ∧
      tokens plainSearch = ["tag:".toList, ":x:".toList, "a:b".toList] ∧
      (∀ word ∈ ["tag:".toList, ":x:".toList], IsWord word) ∧
      Joined ["tag:".toList, ":x:".toList] ("tag:".toList ++ ([' '] ++ ":x:".toList)) ∧
      tokens (['\t'] ++ ("tag:".toList ++ ([' '] ++ ":x:".toList) ++ [])) =
        ["tag:".toList, ":x:".toList] := by
  obtain ⟨split, read, _⟩ := plain_text_split
  have free : MarkFree plainSearch := by decide +kernel
  have parts : (plainSearch.splitOnP isSpace).filter (· ≠ []) =
      ["tag:".toList, ":x:".toList, "a:b".toList] := by
    decide +kernel
  have isWord : ∀ word ∈ ["tag:".toList, ":x:".toList], IsWord word := by decide +kernel
  have joined : Joined ["tag:".toList, ":x:".toList] ("tag:".toList ++ ([' '] ++ ":x:".toList)) :=
    .more (by decide) (by decide) (.one _)
  have before_white : White ['\t'] := by decide
  have after_white : White [] := by decide
  exact ⟨free, (split plainSearch free).trans parts, isWord, joined,
    read _ _ _ _ isWord joined before_white after_white⟩

end Query

end FacetedSearch
