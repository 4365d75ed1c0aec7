/-
Module: FacetedSearch.Proofs.Json.RoundTrip
Purpose: A written value is read back as itself, in each style that puts nothing but blanks behind its
  commas and colons. So a written text stands for one value only.
Imports: FacetedSearch.Proofs.Json.Scalar
Main exports: Json.Style.Reads, Json.readValue?_write, Json.read?_write, Json.read?_compact,
  Json.read?_spaced
-/
import FacetedSearch.Proofs.Json.Scalar

namespace FacetedSearch

namespace Json

/-!
### Blanks
-/

/-- The text is blanks and nothing else. -/
def Blank (text : Text) : Prop := ∀ c ∈ text, isBlank c = true

theorem blank_nil : Blank [] := by
  intro c mem
  cases mem

theorem blank_append {first second : Text} (one : Blank first) (two : Blank second) :
    Blank (first ++ second) := by
  intro c mem
  rcases List.mem_append.1 mem with front | back
  · exact one c front
  · exact two c back

theorem skipBlanks_append {blanks : Text} (blank : Blank blanks) (text : Text) :
    skipBlanks (blanks ++ text) = skipBlanks text :=
  List.dropWhile_append_of_pos blank

theorem skipBlanks_cons {c : Char} (solid : isBlank c = false) (rest : Text) :
    skipBlanks (c :: rest) = c :: rest :=
  List.dropWhile_cons_of_neg (by rw [solid]; exact Bool.false_ne_true)

/-- A style that reads: its commas and colons have only blanks behind them. -/
structure Style.Reads (style : Style) : Prop where
  comma : ∃ blanks, style.comma = ',' :: blanks ∧ Blank blanks
  colon : ∃ blanks, style.colon = ':' :: blanks ∧ Blank blanks

theorem Style.Reads.comma_length {style : Style} (reads : style.Reads) :
    1 ≤ style.comma.length := by
  obtain ⟨behind, comma, _⟩ := reads.comma
  rw [comma]
  exact Nat.succ_le_succ (Nat.zero_le _)

theorem reads_compact : Style.compact.Reads :=
  ⟨⟨[], rfl, blank_nil⟩, ⟨[], rfl, blank_nil⟩⟩

theorem blank_singleton : Blank [' '] := by
  intro c mem
  rw [List.mem_singleton.1 mem]
  rfl

theorem reads_spaced : Style.spaced.Reads :=
  ⟨⟨[' '], rfl, blank_singleton⟩, ⟨[' '], rfl, blank_singleton⟩⟩

theorem reads_indented : Style.indented.Reads :=
  ⟨⟨[], rfl, blank_nil⟩, ⟨[' '], rfl, blank_singleton⟩⟩

theorem blank_newline (style : Style) (level : Nat) : Blank (style.newline level) := by
  intro c mem
  unfold Style.newline at mem
  cases indent : style.indent with
  | none =>
      rw [indent] at mem
      cases mem
  | some width =>
      rw [indent] at mem
      rcases List.mem_cons.1 mem with rfl | inside
      · rfl
      · rw [List.eq_of_mem_replicate inside]
        rfl

/-!
### Values

The depth that a reader needs is no more than the characters it reads.  A value may stand behind
blanks, and before anything that does not go on with a number.
-/

theorem readValue?_skip {blanks : Text} (blank : Blank blanks) (depth : Nat) (text : Text) :
    readValue? depth (blanks ++ text) = readValue? depth text := by
  cases depth with
  | zero => rw [readValue?, readValue?]
  | succ depth => rw [readValue?, readValue?, skipBlanks_append blank]

/-- A character that a number may start with. -/
def StartsNumber (c : Char) : Prop := c = '-' ∨ c.isDigit = true

instance (c : Char) : Decidable (StartsNumber c) := inferInstanceAs (Decidable (_ ∨ _))

theorem solid_of_startsNumber {c : Char} (starts : StartsNumber c) : isBlank c = false := by
  rw [Bool.eq_false_iff]
  intro blank
  simp only [isBlank, Bool.or_eq_true, beq_iff_eq] at blank
  rcases blank with ((rfl | rfl) | rfl) | rfl <;> exact absurd starts (by decide)

/-- A character that a written value may start with. -/
def StartsValue (c : Char) : Prop := isBlank c = false ∧ c ≠ ']'

instance (c : Char) : Decidable (StartsValue c) := inferInstanceAs (Decidable (_ ∧ _))

theorem startsValue_of_number {c : Char} (starts : StartsNumber c) : StartsValue c := by
  refine ⟨solid_of_startsNumber starts, ?_⟩
  rintro rfl
  exact absurd starts (by decide)

theorem readValue?_number {c : Char} (starts : StartsNumber c) (depth : Nat) (rest : Text) :
    readValue? (depth + 1) (c :: rest) = readNumber? (c :: rest) := by
  have same_start : ∀ {d : Char} {more : Text}, c :: rest = d :: more → StartsNumber d := by
    rintro d more ⟨⟩
    exact starts
  rw [readValue?, skipBlanks_cons (solid_of_startsNumber starts)]
  split
  iterate 6 · next other => exact absurd (same_start other) (by decide)
  rfl

theorem quoted_cons (name text : Text) :
    quoted name ++ text = '"' :: (name.flatMap escape ++ '"' :: text) := by
  simp [quoted]

theorem two_le_length_quoted (name : Text) : 2 ≤ (quoted name).length := by
  simp [quoted]

theorem readValue?_quoted (depth : Nat) (text rest : Text) :
    readValue? (depth + 1) (quoted text ++ rest) = some (.str text, rest) := by
  rw [quoted_cons, readValue?, skipBlanks_cons rfl]
  simp only [readString?_escape, Option.map_some]

theorem readValue?_array {blanks : Text} (blank : Blank blanks) {depth : Nat}
    {c : Char} {text middle rest : Text} {item : Json} {items : List Json} (starts : StartsValue c)
    (first : readValue? depth (c :: text) = some (item, middle))
    (later : readItems? depth middle = some (items, rest)) :
    readValue? (depth + 1) ('[' :: (blanks ++ c :: text)) = some (.arr (item :: items), rest) := by
  have inside : skipBlanks (blanks ++ c :: text) = c :: text := by
    rw [skipBlanks_append blank, skipBlanks_cons starts.1]
  rw [readValue?, skipBlanks_cons rfl]
  simp only [inside]
  split
  · next closed => exact absurd (List.cons.inj closed).1 starts.2
  · simp [first, later]

theorem readValue?_object {blanks : Text} (blank : Blank blanks) {depth : Nat}
    {text middle rest : Text} {member : Text × Json} {members : List (Text × Json)}
    (first : readMember? depth ('"' :: text) = some (member, middle))
    (later : readMembers? depth middle = some (members, rest)) :
    readValue? (depth + 1) ('\x7b' :: (blanks ++ '"' :: text)) =
      some (.obj (member :: members), rest) := by
  have inside : skipBlanks (blanks ++ '"' :: text) = '"' :: text := by
    rw [skipBlanks_append blank, skipBlanks_cons rfl]
  rw [readValue?, skipBlanks_cons rfl]
  simp [inside, first, later]

theorem readItems?_close {blanks : Text} (blank : Blank blanks) (depth : Nat) (rest : Text) :
    readItems? (depth + 1) (blanks ++ ']' :: rest) = some ([], rest) := by
  rw [readItems?, skipBlanks_append blank, skipBlanks_cons rfl]
  rfl

theorem readItems?_next {style : Style} (reads : style.Reads) {blanks : Text}
    (blank : Blank blanks) {depth : Nat} {text middle rest : Text} {item : Json} {items : List Json}
    (first : readValue? depth text = some (item, middle))
    (later : readItems? depth middle = some (items, rest)) :
    readItems? (depth + 1) (style.comma ++ (blanks ++ text)) = some (item :: items, rest) := by
  obtain ⟨behind, comma, behind_blank⟩ := reads.comma
  rw [comma, List.cons_append, readItems?, skipBlanks_cons rfl]
  simp [readValue?_skip behind_blank, readValue?_skip blank, first, later]

theorem readMember?_name {style : Style} (reads : style.Reads) {blanks : Text}
    (blank : Blank blanks) {depth : Nat} {text rest : Text} {value : Json} (name : Text)
    (read : readValue? depth text = some (value, rest)) :
    readMember? (depth + 1) (blanks ++ (quoted name ++ (style.colon ++ text))) =
      some ((name, value), rest) := by
  obtain ⟨behind, colon, behind_blank⟩ := reads.colon
  have parted : skipBlanks (':' :: (behind ++ text)) = ':' :: (behind ++ text) :=
    skipBlanks_cons rfl _
  rw [quoted_cons, colon, readMember?, skipBlanks_append blank, skipBlanks_cons rfl]
  simp [readString?_escape, parted, readValue?_skip behind_blank, read]

theorem readMembers?_close {blanks : Text} (blank : Blank blanks) (depth : Nat) (rest : Text) :
    readMembers? (depth + 1) (blanks ++ '}' :: rest) = some ([], rest) := by
  rw [readMembers?, skipBlanks_append blank, skipBlanks_cons rfl]
  rfl

theorem readMembers?_next {style : Style} (reads : style.Reads) {blanks : Text}
    (blank : Blank blanks) {depth : Nat} {text middle rest : Text} {member : Text × Json}
    {members : List (Text × Json)}
    (first : ∀ front, Blank front → readMember? depth (front ++ text) = some (member, middle))
    (later : readMembers? depth middle = some (members, rest)) :
    readMembers? (depth + 1) (style.comma ++ (blanks ++ text)) = some (member :: members, rest) := by
  obtain ⟨behind, comma, behind_blank⟩ := reads.comma
  have read := first (behind ++ blanks) (blank_append behind_blank blank)
  rw [List.append_assoc] at read
  rw [comma, List.cons_append, readMembers?, skipBlanks_cons rfl]
  simp [read, later]

/-!
A written value starts with a character that is no blank and closes no array.
-/

theorem number_start (z : Int) : ∃ c more, Numeral.ofInt z = c :: more ∧ StartsNumber c := by
  cases z with
  | negSucc n => exact ⟨_, _, rfl, Or.inl rfl⟩
  | ofNat n =>
      obtain ⟨c, more, shape⟩ := List.exists_cons_of_ne_nil (Numeral.ofNat_ne_nil n)
      refine ⟨c, more, shape, Or.inr ?_⟩
      apply Numeral.isDigit_of_mem_ofNat (n := n)
      rw [shape]
      exact List.mem_cons_self

theorem decimal_start (value : Decimal) :
    ∃ c more, value.toText = c :: more ∧ StartsNumber c := by
  obtain ⟨negative, whole, tail⟩ := value
  cases negative with
  | true => exact ⟨_, _, rfl, Or.inl rfl⟩
  | false =>
      obtain ⟨c, more, shape, starts⟩ := number_start whole
      have whole_shape : Numeral.ofNat whole = c :: more := shape
      refine ⟨c, more ++ tail.toText, ?_, starts⟩
      simp [Decimal.toText, whole_shape]

theorem write_start (style : Style) (level : Nat) (value : Json) :
    ∃ c more, write style level value = c :: more ∧ StartsValue c := by
  cases value with
  | null => exact ⟨'n', _, rfl, by decide⟩
  | bool value => cases value with
    | true => exact ⟨'t', _, rfl, by decide⟩
    | false => exact ⟨'f', _, rfl, by decide⟩
  | int number =>
      obtain ⟨c, more, shape, starts⟩ := number_start number
      exact ⟨c, more, shape, startsValue_of_number starts⟩
  | decimal number =>
      obtain ⟨c, more, shape, starts⟩ := decimal_start number
      exact ⟨c, more, shape, startsValue_of_number starts⟩
  | str text => exact ⟨'"', _, rfl, by decide⟩
  | arr items => cases items with
    | nil => exact ⟨'[', _, rfl, by decide⟩
    | cons item items => exact ⟨'[', _, rfl, by decide⟩
  | obj members => cases members with
    | nil => exact ⟨'\x7b', _, rfl, by decide⟩
    | cons member members => exact ⟨'\x7b', _, rfl, by decide⟩

/-!
What is written behind a value does not go on with it: blanks, a comma or a closing bracket.
-/

instance (c : Char) : Decidable (GoesOn c) := inferInstanceAs (Decidable (_ ∨ _))

theorem stops_of_isBlank {c : Char} (held : isBlank c = true) : ¬ GoesOn c := by
  simp only [isBlank, Bool.or_eq_true, beq_iff_eq] at held
  rcases held with ((rfl | rfl) | rfl) | rfl <;> decide

theorem endsNumber_of_blank {blanks : Text} (blank : Blank blanks) : EndsNumber blanks := by
  intro c mem
  exact stops_of_isBlank (blank c (List.mem_of_mem_head? mem))

theorem endsNumber_blanks {blanks : Text} (blank : Blank blanks) {c : Char} (stops : ¬ GoesOn c)
    (rest : Text) : EndsNumber (blanks ++ c :: rest) := by
  cases blanks with
  | nil => exact startsNot_cons stops
  | cons first blanks => exact startsNot_cons (stops_of_isBlank (blank first List.mem_cons_self))

theorem endsNumber_items {style : Style} (reads : style.Reads) (level : Nat) (items : List Json)
    {blanks : Text} (blank : Blank blanks) (rest : Text) :
    EndsNumber (writeItems style level items ++ blanks ++ ']' :: rest) := by
  cases items with
  | nil => exact endsNumber_blanks blank (by decide) rest
  | cons item items =>
      obtain ⟨behind, comma, _⟩ := reads.comma
      rw [writeItems, comma]
      exact startsNot_cons (by decide)

theorem endsNumber_members {style : Style} (reads : style.Reads) (level : Nat)
    (members : List (Text × Json)) {blanks : Text} (blank : Blank blanks) (rest : Text) :
    EndsNumber (writeMembers style level members ++ blanks ++ '\x7d' :: rest) := by
  cases members with
  | nil => exact endsNumber_blanks blank (by decide) rest
  | cons member members =>
      obtain ⟨behind, comma, _⟩ := reads.comma
      rw [writeMembers, comma]
      exact startsNot_cons (by decide)

mutual

/-- A written value is read back, up to what stands behind it. -/
theorem readValue?_write {style : Style} (reads : style.Reads) :
    ∀ (value : Json) (level : Nat) {depth : Nat} {rest : Text},
      (write style level value).length ≤ depth → EndsNumber rest →
        readValue? depth (write style level value ++ rest) = some (value, rest)
  | value, level, 0, rest, deep, _ => by
      obtain ⟨c, more, shape, _⟩ := write_start style level value
      rw [shape] at deep
      cases deep
  | .null, _, depth + 1, rest, _, _ => by
      rw [write, readValue?]
      rfl
  | .bool true, _, depth + 1, rest, _, _ => by
      rw [write, readValue?]
      rfl
  | .bool false, _, depth + 1, rest, _, _ => by
      rw [write, readValue?]
      rfl
  | .int number, _, depth + 1, rest, _, ends => by
      obtain ⟨c, more, shape, starts⟩ := number_start number
      have read := readNumber?_ofInt number ends
      rw [write, shape, List.cons_append, readValue?_number starts]
      rwa [shape] at read
  | .decimal number, _, depth + 1, rest, _, ends => by
      obtain ⟨c, more, shape, starts⟩ := decimal_start number
      have read := readNumber?_decimal number ends
      rw [write, shape, List.cons_append, readValue?_number starts]
      rwa [shape] at read
  | .str text, _, depth + 1, rest, _, _ => by
      rw [write, readValue?_quoted]
  | .arr [], _, depth + 1, rest, _, _ => by
      rw [write, readValue?]
      rfl
  | .obj [], _, depth + 1, rest, _, _ => by
      rw [write, readValue?]
      rfl
  | .arr (item :: items), level, depth + 1, rest, deep, _ => by
      simp only [write, List.length_append, List.length_cons, List.length_nil] at deep
      have item_deep : (write style (level + 1) item).length ≤ depth := by omega
      have items_deep : (writeItems style (level + 1) items).length < depth := by omega
      have blank := blank_newline style level
      have first := readValue?_write reads item (level + 1) item_deep
        (endsNumber_items reads (level + 1) items blank rest)
      have later := readItems?_writeItems reads items (level + 1) items_deep blank rest
      obtain ⟨c, more, shape, starts⟩ := write_start style (level + 1) item
      rw [shape] at first
      have read := readValue?_array (blank_newline style (level + 1)) starts first later
      simpa [write, shape] using read
  | .obj ((name, value) :: members), level, depth + 2, rest, deep, _ => by
      simp only [write, List.length_append, List.length_cons, List.length_nil] at deep
      have value_deep : (write style (level + 1) value).length ≤ depth := by omega
      have members_deep : (writeMembers style (level + 1) members).length < depth + 1 := by omega
      have blank := blank_newline style level
      have read_value := readValue?_write reads value (level + 1) value_deep
        (endsNumber_members reads (level + 1) members blank rest)
      have first := readMember?_name reads blank_nil name read_value
      have later := readMembers?_writeMembers reads members (level + 1) members_deep blank rest
      rw [List.nil_append, quoted_cons] at first
      have read := readValue?_object (blank_newline style (level + 1)) first later
      simpa [write, quoted] using read
  | .obj ((name, value) :: members), level, 1, rest, deep, _ => by
      simp [write] at deep

/-- Written items are read back up to the bracket that closes them. -/
theorem readItems?_writeItems {style : Style} (reads : style.Reads) :
    ∀ (items : List Json) (level : Nat) {depth : Nat} {blanks : Text},
      (writeItems style level items).length < depth → Blank blanks → ∀ rest,
        readItems? depth (writeItems style level items ++ blanks ++ ']' :: rest) =
          some (items, rest)
  | [], _, depth + 1, blanks, _, blank, rest => readItems?_close blank depth rest
  | item :: items, level, depth + 1, blanks, deep, blank, rest => by
      simp only [writeItems, List.length_append] at deep
      have comma := reads.comma_length
      have item_deep : (write style level item).length ≤ depth := by omega
      have items_deep : (writeItems style level items).length < depth := by omega
      have first := readValue?_write reads item level item_deep
        (endsNumber_items reads level items blank rest)
      have later := readItems?_writeItems reads items level items_deep blank rest
      have read := readItems?_next reads (blank_newline style level) first later
      simpa [writeItems] using read

/-- Written members are read back up to the brace that closes them. -/
theorem readMembers?_writeMembers {style : Style} (reads : style.Reads) :
    ∀ (members : List (Text × Json)) (level : Nat) {depth : Nat} {blanks : Text},
      (writeMembers style level members).length < depth → Blank blanks → ∀ rest,
        readMembers? depth (writeMembers style level members ++ blanks ++ '\x7d' :: rest) =
          some (members, rest)
  | [], _, depth + 1, blanks, _, blank, rest => readMembers?_close blank depth rest
  | (name, value) :: members, level, depth + 2, blanks, deep, blank, rest => by
      simp only [writeMembers, List.length_append] at deep
      have comma := reads.comma_length
      have quotes := two_le_length_quoted name
      have value_deep : (write style level value).length ≤ depth := by omega
      have members_deep : (writeMembers style level members).length < depth + 1 := by omega
      have read_value := readValue?_write reads value level value_deep
        (endsNumber_members reads level members blank rest)
      have later := readMembers?_writeMembers reads members level members_deep blank rest
      have first := fun front (front_blank : Blank front) =>
        readMember?_name reads front_blank name read_value
      have read := readMembers?_next reads (blank_newline style level) first later
      simpa [writeMembers] using read
  | (name, value) :: members, level, 1, blanks, deep, _, _ => by
      simp only [writeMembers, List.length_append] at deep
      have quotes := two_le_length_quoted name
      omega

end

/-- A written text is read back as the value that it was written for, in any style that reads. -/
theorem read?_write {style : Style} (reads : style.Reads) (value : Json) {blanks : Text}
    (blank : Blank blanks) : read? (write style 0 value ++ blanks) = some value := by
  have deep : (write style 0 value).length ≤ (write style 0 value ++ blanks).length + 1 := by
    rw [List.length_append]
    omega
  have nothing : skipBlanks blanks = [] := List.dropWhile_eq_nil_iff.2 blank
  unfold read?
  rw [readValue?_write reads value 0 deep (endsNumber_of_blank blank)]
  exact if_pos nothing

theorem read?_compact (value : Json) : read? value.compact = some value := by
  have read := read?_write reads_compact value blank_nil
  rwa [List.append_nil] at read

theorem read?_spaced (value : Json) : read? value.spaced = some value := by
  have read := read?_write reads_spaced value blank_nil
  rwa [List.append_nil] at read

end Json

end FacetedSearch
