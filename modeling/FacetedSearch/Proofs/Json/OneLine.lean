/-
Module: FacetedSearch.Proofs.Json.OneLine
Purpose: In a style of one line a written value is one line: no character of it lies below the blank,
  whatever the texts inside it hold.
Imports: FacetedSearch.Json.Printer
Main exports: Json.Unbroken, Json.Style.OneLine, Json.unbroken_write, Json.unbroken_spaced
-/
import Mathlib
import FacetedSearch.Json.Printer

namespace FacetedSearch

namespace Json

/-- No character of the text lies below the blank: there are no line breaks in it, and no other
control characters. -/
def Unbroken (text : Text) : Prop := ∀ c ∈ text, 0x20 ≤ c.toNat

instance (text : Text) : Decidable (Unbroken text) :=
  List.decidableBAll (fun c : Char => 0x20 ≤ c.toNat) text

theorem unbroken_cons_iff {c : Char} {text : Text} :
    Unbroken (c :: text) ↔ 0x20 ≤ c.toNat ∧ Unbroken text := List.forall_mem_cons

theorem unbroken_append_iff {first second : Text} :
    Unbroken (first ++ second) ↔ Unbroken first ∧ Unbroken second := List.forall_mem_append

theorem unbroken_append {first second : Text} (one : Unbroken first) (two : Unbroken second) :
    Unbroken (first ++ second) := unbroken_append_iff.2 ⟨one, two⟩

/-!
### Strings and numbers

Control characters are escaped, and what they are escaped as is digits and letters.
-/

theorem unbroken_hex {n : Nat} (small : n < 0x20) :
    Unbroken ("\\u00".toList ++ [Nat.digitChar (n / 16), Nat.digitChar (n % 16)]) := by
  revert small
  revert n
  decide

theorem unbroken_escape (c : Char) : Unbroken (escape c) := by
  unfold escape
  iterate 7
    split
    · decide
  split
  · next control => exact unbroken_hex control
  · next not_control => exact unbroken_cons_iff.2 ⟨Nat.le_of_not_lt not_control, by decide⟩

theorem unbroken_quoted (text : Text) : Unbroken (quoted text) := by
  have inside : Unbroken (text.flatMap escape) := by
    intro d mem
    obtain ⟨c, _, escaped⟩ := List.mem_flatMap.1 mem
    exact unbroken_escape c d escaped
  exact unbroken_append (unbroken_cons_iff.2 ⟨by decide, inside⟩) (by decide)

theorem unbroken_of_isDigit {text : Text} (digits : ∀ c ∈ text, c.isDigit = true) :
    Unbroken text := by
  intro c mem
  have first : '0'.toNat ≤ c.toNat := (Char.isDigit_iff_toNat.1 (digits c mem)).1
  exact Nat.le_trans (by decide) first

theorem unbroken_ofNat (n : Nat) : Unbroken (Numeral.ofNat n) :=
  unbroken_of_isDigit fun _ => Numeral.isDigit_of_mem_ofNat

theorem unbroken_ofInt (z : Int) : Unbroken (Numeral.ofInt z) := by
  cases z with
  | ofNat n => exact unbroken_ofNat n
  | negSucc n => exact unbroken_cons_iff.2 ⟨by decide, unbroken_ofNat (n + 1)⟩

theorem unbroken_digits (digits : Digits) : Unbroken digits.toText := by
  intro c mem
  obtain ⟨digit, _, rfl⟩ := List.mem_map.1 mem
  have all : ∀ digit : Fin 10, 0x20 ≤ (Nat.digitChar digit.val).toNat := by decide
  exact all digit

theorem unbroken_exponent (exponent : Exponent) : Unbroken exponent.toText := by
  obtain ⟨capital, sign, digits⟩ := exponent
  have letter : 0x20 ≤ (if capital then 'E' else 'e').toNat := by
    cases capital <;> decide
  have signed : ∀ front, Unbroken front →
      Unbroken ((if capital then 'E' else 'e') :: front ++ digits.toText) := by
    intro front unbroken
    exact unbroken_append (unbroken_cons_iff.2 ⟨letter, unbroken⟩) (unbroken_digits digits)
  rcases sign with _ | _ | _
  · exact signed [] (by decide)
  · exact signed ['+'] (by decide)
  · exact signed ['-'] (by decide)

theorem unbroken_tail (tail : Tail) : Unbroken tail.toText := by
  cases tail with
  | power exponent => exact unbroken_exponent exponent
  | fraction digits exponent =>
      have point : Unbroken ('.' :: digits.toText) :=
        unbroken_cons_iff.2 ⟨by decide, unbroken_digits digits⟩
      cases exponent with
      | none => exact unbroken_append point (by decide)
      | some exponent => exact unbroken_append point (unbroken_exponent exponent)

theorem unbroken_decimal (value : Decimal) : Unbroken value.toText := by
  obtain ⟨negative, whole, tail⟩ := value
  have sign : Unbroken (if negative then ['-'] else []) := by
    cases negative <;> decide
  exact unbroken_append (unbroken_append sign (unbroken_ofNat whole)) (unbroken_tail tail)

/-!
### Values
-/

/-- The style breaks no lines. -/
structure Style.OneLine (style : Style) : Prop where
  indent : style.indent = none
  comma : Unbroken style.comma
  colon : Unbroken style.colon

theorem Style.OneLine.newline {style : Style} (oneLine : style.OneLine) (level : Nat) :
    style.newline level = [] := by
  unfold Style.newline
  rw [oneLine.indent]

theorem oneLine_spaced : Style.spaced.OneLine := ⟨rfl, by decide, by decide⟩

mutual

theorem unbroken_write {style : Style} (oneLine : style.OneLine) (level : Nat) :
    ∀ value : Json, Unbroken (write style level value)
  | .null | .bool true | .bool false | .arr [] | .obj [] => by
      rw [write]
      decide
  | .int number => by
      rw [write]
      exact unbroken_ofInt number
  | .decimal number => by
      rw [write]
      exact unbroken_decimal number
  | .str text => by
      rw [write]
      exact unbroken_quoted text
  | .arr (item :: items) => by
      have first := unbroken_write oneLine (level + 1) item
      have later := unbroken_writeItems oneLine (level + 1) items
      simp only [write, oneLine.newline, unbroken_append_iff, unbroken_cons_iff]
      exact ⟨⟨⟨⟨⟨by decide, by decide⟩, first⟩, later⟩, by decide⟩, by decide⟩
  | .obj ((name, value) :: members) => by
      have first := unbroken_write oneLine (level + 1) value
      have later := unbroken_writeMembers oneLine (level + 1) members
      simp only [write, oneLine.newline, unbroken_append_iff, unbroken_cons_iff]
      exact ⟨⟨⟨⟨⟨⟨⟨by decide, by decide⟩, unbroken_quoted name⟩, oneLine.colon⟩, first⟩, later⟩,
        by decide⟩, by decide⟩

theorem unbroken_writeItems {style : Style} (oneLine : style.OneLine) (level : Nat) :
    ∀ items : List Json, Unbroken (writeItems style level items)
  | [] => by
      rw [writeItems]
      decide
  | item :: items => by
      have first := unbroken_write oneLine level item
      have later := unbroken_writeItems oneLine level items
      simp only [writeItems, oneLine.newline, unbroken_append_iff]
      exact ⟨⟨⟨oneLine.comma, by decide⟩, first⟩, later⟩

theorem unbroken_writeMembers {style : Style} (oneLine : style.OneLine) (level : Nat) :
    ∀ members : List (Text × Json), Unbroken (writeMembers style level members)
  | [] => by
      rw [writeMembers]
      decide
  | (name, value) :: members => by
      have first := unbroken_write oneLine level value
      have later := unbroken_writeMembers oneLine level members
      simp only [writeMembers, oneLine.newline, unbroken_append_iff]
      exact ⟨⟨⟨⟨⟨oneLine.comma, by decide⟩, unbroken_quoted name⟩, oneLine.colon⟩, first⟩, later⟩

end

/-- A value on one line is one line. -/
theorem unbroken_spaced (value : Json) : Unbroken value.spaced :=
  unbroken_write oneLine_spaced 0 value

end Json

end FacetedSearch
