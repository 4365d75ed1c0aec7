/-
Module: FacetedSearch.Proofs.Web.Form
Purpose: What a query says. Without escapes each character of a name or value stands for itself, and
  a query that parts are not kept apart in is one pair. A query in which names and values are written
  with escapes, in any of the ways to write them, says just these pairs.
Imports: FacetedSearch.Web.Form
Main exports: Form.component_of_bare, Form.last?_single, Form.Written, Form.component_of_written,
  Form.Encodes, Form.pairs_of_encodes
-/
import Mathlib
import FacetedSearch.Web.Form

namespace FacetedSearch

/-- A text is not split at a character that it does not hold. -/
theorem Text.splitAtAll_of_not_mem {c : Char} {text : Text} (missing : c ∉ text) :
    text.splitAtAll c = [text] := by
  induction text with
  | nil => rfl
  | cons d rest ih =>
      obtain ⟨other, rest_missing⟩ := List.ne_and_not_mem_of_not_mem_cons missing
      unfold Text.splitAtAll
      rw [if_neg other.symm, ih rest_missing]

/-- The first part of a split text ends at the first occurrence of the character. -/
theorem Text.splitAtAll_append {c : Char} {part : Text} (missing : c ∉ part) (rest : Text) :
    (part ++ c :: rest).splitAtAll c = part :: rest.splitAtAll c := by
  induction part with
  | nil => simp [Text.splitAtAll]
  | cons d part ih =>
      obtain ⟨other, part_missing⟩ := List.ne_and_not_mem_of_not_mem_cons missing
      rw [List.cons_append, Text.splitAtAll, if_neg other.symm, ih part_missing]

namespace Form

/-- A text in which no character is an escape or stands for another. -/
def IsBare (text : Text) : Prop := '%' ∉ text ∧ '+' ∉ text

theorem bytes_cons_of_ne {c : Char} (not_percent : c ≠ '%') (rest : Text) :
    bytes (c :: rest) = Utf8.encodeChar c ++ bytes rest := by
  rw [bytes]
  intro _ _ _ percent
  exact absurd percent not_percent

theorem bytes_of_no_percent {text : Text} (no_percent : '%' ∉ text) :
    bytes text = Utf8.encode text := by
  induction text with
  | nil => rfl
  | cons c rest ih =>
      obtain ⟨other, rest_no_percent⟩ := List.ne_and_not_mem_of_not_mem_cons no_percent
      rw [bytes_cons_of_ne other.symm, ih rest_no_percent]
      rfl

theorem map_blankForPlus {text : Text} (no_plus : '+' ∉ text) : text.map blankForPlus = text := by
  calc text.map blankForPlus
      = text.map id := by
        apply List.map_congr_left
        intro c mem
        apply if_neg
        rintro rfl
        exact no_plus mem
    _ = text := List.map_id text

theorem component_of_bare {text : Text} (bare : IsBare text) : component text = text := by
  obtain ⟨no_percent, no_plus⟩ := bare
  unfold component
  rw [map_blankForPlus no_plus, bytes_of_no_percent no_percent, Utf8.decode_encode]

/-- The value in a query of one pair. -/
theorem last?_single {name value : Text} (bare : IsBare name) (no_equals : '=' ∉ name)
    (no_ampersand : '&' ∉ name ++ '=' :: value) :
    last? (name ++ '=' :: value) name = some (component value) := by
  have kept : [name ++ '=' :: value].filter (· ≠ []) = [name ++ '=' :: value] := by simp
  have cut : (name ++ '=' :: value).cut? '=' = some (name, value) :=
    Text.cut?_eq_some_iff.2 ⟨rfl, no_equals⟩
  have one : pairs (name ++ '=' :: value) = [(name, component value)] := by
    unfold pairs
    rw [Text.splitAtAll_of_not_mem no_ampersand, kept]
    simp only [List.map_cons, List.map_nil, pair, cut, component_of_bare bare]
  unfold last?
  rw [one]
  simp only [List.reverse_singleton, List.find?_cons_of_pos, beq_self_eq_true, Option.map_some]

/-!
### Writing with escapes

A character may be written as the escapes of its bytes, each with hexadecimal digits in either case.
A letter or digit may also stand for itself.
-/

/-- A hexadecimal digit of a number below sixteen. -/
def IsHexDigit (n : Nat) (c : Char) : Prop :=
  n < 16 ∧ (c = Nat.digitChar n ∨ c = (Nat.digitChar n).toUpper)

/-- Bytes, each as an escape. -/
inductive Escapes : List Nat → Text → Prop where
  | nil : Escapes [] []
  | cons {byte : Nat} {high low : Char} {bytes : List Nat} {escapes : Text}
      (upper : IsHexDigit (byte / 16) high) (lower : IsHexDigit (byte % 16) low)
      (rest : Escapes bytes escapes) : Escapes (byte :: bytes) ('%' :: high :: low :: escapes)

/-- The ways to write a text. -/
inductive Written : Text → Text → Prop where
  | nil : Written [] []
  | plain {c : Char} {text written : Text} (alphanumeric : c.isAlphanum = true)
      (rest : Written text written) : Written (c :: text) (c :: written)
  | escaped {c : Char} {text escapes written : Text} (bytes : Escapes (Utf8.encodeChar c) escapes)
      (rest : Written text written) : Written (c :: text) (escapes ++ written)

theorem hexValue?_of_isHexDigit {n : Nat} {c : Char} (digit : IsHexDigit n c) :
    Text.hexValue? c = some n := by
  obtain ⟨small, rfl | rfl⟩ := digit
  · exact Text.hexValue?_digitChar small
  · have all : ∀ n, n < 16 → Text.hexValue? (Nat.digitChar n).toUpper = some n := by decide
    exact all n small

theorem isAlphanum_of_isHexDigit {n : Nat} {c : Char} (digit : IsHexDigit n c) :
    c.isAlphanum = true := by
  obtain ⟨small, same⟩ := digit
  have all : ∀ n, n < 16 → (Nat.digitChar n).isAlphanum = true ∧
      (Nat.digitChar n).toUpper.isAlphanum = true := by decide
  rcases same with rfl | rfl
  · exact (all n small).1
  · exact (all n small).2

theorem mem_escapes {bytes : List Nat} {escapes : Text} (written : Escapes bytes escapes) :
    ∀ c ∈ escapes, c = '%' ∨ c.isAlphanum = true := by
  induction written with
  | nil =>
      intro c mem
      cases mem
  | cons upper lower _ ih =>
      intro c mem
      simp only [List.mem_cons] at mem
      rcases mem with rfl | rfl | rfl | later
      · exact Or.inl rfl
      · exact Or.inr (isAlphanum_of_isHexDigit upper)
      · exact Or.inr (isAlphanum_of_isHexDigit lower)
      · exact ih c later

/-- However a text is written, percent signs, letters and digits are all that is needed. -/
theorem mem_written {text written : Text} (way : Written text written) :
    ∀ c ∈ written, c = '%' ∨ c.isAlphanum = true := by
  induction way with
  | nil =>
      intro c mem
      cases mem
  | plain alphanumeric _ ih =>
      intro c mem
      rcases List.mem_cons.1 mem with rfl | later
      · exact Or.inr alphanumeric
      · exact ih c later
  | escaped bytes _ ih =>
      intro c mem
      rcases List.mem_append.1 mem with here | later
      · exact mem_escapes bytes c here
      · exact ih c later

theorem not_mem_written {text written : Text} (way : Written text written) {c : Char}
    (not_percent : c ≠ '%') (other : c.isAlphanum = false) : c ∉ written := by
  intro mem
  rcases mem_written way c mem with percent | alphanumeric
  · exact not_percent percent
  · rw [other] at alphanumeric
    cases alphanumeric

theorem bytes_escapes_append {bytes : List Nat} {escapes : Text} (written : Escapes bytes escapes)
    (rest : Text) : Form.bytes (escapes ++ rest) = bytes ++ Form.bytes rest := by
  induction written with
  | nil => rfl
  | @cons byte high low more escapes upper lower _ ih =>
      have whole : 16 * (byte / 16) + byte % 16 = byte := Nat.div_add_mod byte 16
      simp only [List.cons_append, Form.bytes, hexValue?_of_isHexDigit upper,
        hexValue?_of_isHexDigit lower, whole, ih]

theorem bytes_of_written {text written : Text} (way : Written text written) :
    bytes written = Utf8.encode text := by
  induction way with
  | nil => rfl
  | @plain c text written alphanumeric _ ih =>
      have not_percent : c ≠ '%' := by
        rintro rfl
        cases alphanumeric
      rw [bytes_cons_of_ne not_percent, ih]
      rfl
  | escaped escapes _ ih =>
      rw [bytes_escapes_append escapes, ih]
      rfl

/-- A text is read back however it is written. -/
theorem component_of_written {text written : Text} (way : Written text written) :
    component written = text := by
  have no_plus : '+' ∉ written := not_mem_written way (by decide) rfl
  unfold component
  rw [map_blankForPlus no_plus, bytes_of_written way, Utf8.decode_encode]

/-!
There is a way to write each text: every character by its escapes.
-/

theorem escapeByte_eq {byte : Nat} (small : byte < 256) :
    escapeByte byte =
      ['%', (Nat.digitChar (byte / 16)).toUpper, (Nat.digitChar (byte % 16)).toUpper] := by
  have digits : Text.hex 2 byte = [Nat.digitChar (byte / 16), Nat.digitChar (byte % 16)] := by
    unfold Text.hex
    by_cases one : byte < 16
    · rw [Nat.toDigits_of_lt_base one, Nat.div_eq_of_lt one, Nat.mod_eq_of_lt one]
      rfl
    · have upper : byte / 16 < 16 := Nat.div_lt_of_lt_mul small
      rw [Nat.toDigits_of_base_le (by decide) (Nat.le_of_not_lt one),
        Nat.toDigits_of_lt_base upper]
      rfl
  rw [escapeByte, digits]
  rfl

theorem lt_of_mem_encodeChar {c : Char} : ∀ byte ∈ Utf8.encodeChar c, byte < 256 := by
  have last : c.toNat < 0x110000 := by
    rcases c.valid with low | high
    · exact Nat.lt_trans low (by decide)
    · exact high.2
  intro byte mem
  unfold Utf8.encodeChar at mem
  dsimp only at mem
  split at mem
  · simp at mem
    omega
  split at mem
  · simp at mem
    omega
  split at mem
  · simp at mem
    omega
  · simp at mem
    omega

theorem escapes_flatMap {bytes : List Nat} (small : ∀ byte ∈ bytes, byte < 256) :
    Escapes bytes (bytes.flatMap escapeByte) := by
  induction bytes with
  | nil => exact .nil
  | cons byte bytes ih =>
      obtain ⟨here, later⟩ := List.forall_mem_cons.1 small
      rw [List.flatMap_cons, escapeByte_eq here]
      refine .cons ⟨?_, Or.inr rfl⟩ ⟨?_, Or.inr rfl⟩ (ih later)
      · exact Nat.div_lt_of_lt_mul here
      · exact Nat.mod_lt byte (by decide)

/-- Every text can be written, with an escape for each of its bytes. -/
theorem written_flatMap (text : Text) :
    Written text (text.flatMap fun c => (Utf8.encodeChar c).flatMap escapeByte) := by
  induction text with
  | nil => exact .nil
  | cons c text ih => exact .escaped (escapes_flatMap lt_of_mem_encodeChar) ih

/-!
### Pairs
-/

/-- A pair with its name and its value written, kept apart by an equals sign. -/
inductive EncodesPair : Text × Text → Text → Prop where
  | mk {name value written_name written_value : Text} (name_way : Written name written_name)
      (value_way : Written value written_value) :
      EncodesPair (name, value) (written_name ++ '=' :: written_value)

/-- Pairs one after the other, kept apart by ampersands. -/
inductive Encodes : List (Text × Text) → Text → Prop where
  | last {pair : Text × Text} {part : Text} (encodes : EncodesPair pair part) : Encodes [pair] part
  | cons {pair : Text × Text} {part query : Text} {pairs : List (Text × Text)}
      (encodes : EncodesPair pair part) (rest : Encodes pairs query) :
      Encodes (pair :: pairs) (part ++ '&' :: query)

theorem pair_of_encodesPair {pair : Text × Text} {part : Text} (encodes : EncodesPair pair part) :
    Form.pair part = pair := by
  cases encodes with
  | @mk name value written_name written_value name_way value_way =>
      have no_equals : '=' ∉ written_name := not_mem_written name_way (by decide) rfl
      have cut : (written_name ++ '=' :: written_value).cut? '=' =
          some (written_name, written_value) := Text.cut?_eq_some_iff.2 ⟨rfl, no_equals⟩
      unfold Form.pair
      simp only [cut, component_of_written name_way, component_of_written value_way]

theorem EncodesPair.ne_nil {pair : Text × Text} {part : Text} (encodes : EncodesPair pair part) :
    part ≠ [] := by
  cases encodes
  exact List.append_ne_nil_of_right_ne_nil _ (List.cons_ne_nil _ _)

theorem EncodesPair.no_ampersand {pair : Text × Text} {part : Text}
    (encodes : EncodesPair pair part) : '&' ∉ part := by
  obtain ⟨name_way, value_way⟩ := encodes
  intro mem
  rcases List.mem_append.1 mem with front | back
  · exact not_mem_written name_way (by decide) rfl front
  · rcases List.mem_cons.1 back with equals | inside
    · cases equals
    · exact not_mem_written value_way (by decide) rfl inside

theorem filter_parts_cons {part : Text} (not_empty : part ≠ []) (parts : List Text) :
    (part :: parts).filter (· ≠ []) = part :: parts.filter (· ≠ []) :=
  List.filter_cons_of_pos (decide_eq_true not_empty)

/-- A query says the pairs that it was written for. -/
theorem pairs_of_encodes {encoded : List (Text × Text)} {query : Text}
    (encodes : Encodes encoded query) : pairs query = encoded := by
  induction encodes with
  | last encodes =>
      unfold pairs
      rw [Text.splitAtAll_of_not_mem encodes.no_ampersand, filter_parts_cons encodes.ne_nil,
        List.map_cons, pair_of_encodesPair encodes]
      rfl
  | cons encodes _ ih =>
      unfold pairs at ih ⊢
      rw [Text.splitAtAll_append encodes.no_ampersand, filter_parts_cons encodes.ne_nil, List.map_cons,
        pair_of_encodesPair encodes, ih]

end Form

end FacetedSearch
