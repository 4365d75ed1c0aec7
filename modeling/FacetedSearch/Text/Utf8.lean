/-
Module: FacetedSearch.Text.Utf8
Purpose: Texts as UTF-8 bytes, and bytes as the text they hold or damaged text.
Imports: FacetedSearch.Text.Basic
Main exports: Utf8.encodeChar, Utf8.encode, Utf8.decode, Utf8.decode_encode
-/
import FacetedSearch.Text.Basic

namespace FacetedSearch

namespace Utf8

/-!
### Encoding

A byte is a number below 256.  A character has one byte below 128, and else a first byte that says
how many follow, each of these with six bits of the character's number.
-/

/-- The bytes of a character. -/
def encodeChar (c : Char) : List Nat :=
  let code := c.toNat
  if code < 0x80 then [code]
  else if code < 0x800 then [0xC0 + code / 0x40, 0x80 + code % 0x40]
  else if code < 0x10000 then
    [0xE0 + code / 0x1000, 0x80 + code / 0x40 % 0x40, 0x80 + code % 0x40]
  else
    [0xF0 + code / 0x40000, 0x80 + code / 0x1000 % 0x40, 0x80 + code / 0x40 % 0x40,
      0x80 + code % 0x40]

/-- The bytes of a text. -/
def encode (text : Text) : List Nat := text.flatMap encodeChar

/-!
### Decoding

Bytes are read one by one.  After a first byte the next one is confined, so that no character is
written with more bytes than it needs, none is a surrogate, and none is above the last character.
A byte that cannot stand where it stands ends the character under way; what was read of that
character becomes one replacement character, and the byte is looked at afresh.
-/

/-- What stands for bytes that are no character. -/
def replacement : Char := '\ufffd'

/-- Where the reader stands: between characters, or inside one whose number so far is `code`, whose
next byte lies from `low` to `high`, and which has `more` bytes after that one. -/
inductive State where
  | between
  | inside (code low high more : Nat)
deriving Repr, DecidableEq

/-- The first byte of a character: what it gives at once, and where the reader stands after it. -/
def first (byte : Nat) : Text × State :=
  if byte < 0x80 then ([Char.ofNat byte], .between)
  else if 0xC2 ≤ byte ∧ byte ≤ 0xDF then ([], .inside (byte - 0xC0) 0x80 0xBF 0)
  else if byte = 0xE0 then ([], .inside 0 0xA0 0xBF 1)
  else if byte = 0xED then ([], .inside 0xD 0x80 0x9F 1)
  else if 0xE1 ≤ byte ∧ byte ≤ 0xEF then ([], .inside (byte - 0xE0) 0x80 0xBF 1)
  else if byte = 0xF0 then ([], .inside 0 0x90 0xBF 2)
  else if 0xF1 ≤ byte ∧ byte ≤ 0xF3 then ([], .inside (byte - 0xF0) 0x80 0xBF 2)
  else if byte = 0xF4 then ([], .inside 4 0x80 0x8F 2)
  else ([replacement], .between)

/-- One byte: what it gives, and where the reader stands after it. -/
def step : State → Nat → Text × State
  | .between, byte => first byte
  | .inside code low high more, byte =>
      if low ≤ byte ∧ byte ≤ high then
        let code := code * 0x40 + (byte - 0x80)
        match more with
        | 0 => ([Char.ofNat code], .between)
        | more + 1 => ([], .inside code 0x80 0xBF more)
      else
        let (text, state) := first byte
        (replacement :: text, state)

/-- The text of bytes from a place of the reader on. -/
def decodeFrom : State → List Nat → Text
  | .between, [] => []
  | .inside .., [] => [replacement]
  | state, byte :: rest =>
      let (text, state) := step state byte
      text ++ decodeFrom state rest

/-- The text of bytes. -/
def decode (bytes : List Nat) : Text := decodeFrom .between bytes

/-- What a byte gives comes before what the rest gives. -/
theorem decodeFrom_cons (state : State) (byte : Nat) (rest : List Nat) :
    decodeFrom state (byte :: rest) =
      (step state byte).1 ++ decodeFrom (step state byte).2 rest := by
  cases state <;> rfl

/-- A byte in its bounds ends a character that has no byte after it. -/
theorem step_last {code low high byte : Nat} (hl : low ≤ byte) (hh : byte ≤ high) :
    step (.inside code low high 0) byte =
      ([Char.ofNat (code * 0x40 + (byte - 0x80))], .between) := by
  simp [step, hl, hh]

/-- A byte in its bounds brings a character one byte nearer to its end. -/
theorem step_more {code low high more byte : Nat} (hl : low ≤ byte) (hh : byte ≤ high) :
    step (.inside code low high (more + 1)) byte =
      ([], .inside (code * 0x40 + (byte - 0x80)) 0x80 0xBF more) := by
  simp [step, hl, hh]

/-- The first of three bytes, and the bounds in which the second one lies. -/
theorem first_of_three {code : Nat} (hl : 0x800 ≤ code) (hh : code < 0x10000)
    (valid : code < 0xD800 ∨ 0xDFFF < code) :
    ∃ low high, first (0xE0 + code / 0x1000) = ([], .inside (code / 0x1000) low high 1) ∧
      low ≤ 0x80 + code / 0x40 % 0x40 ∧ 0x80 + code / 0x40 % 0x40 ≤ high := by
  by_cases hzero : code / 0x1000 = 0
  · refine ⟨0xA0, 0xBF, ?_, by omega, by omega⟩
    rw [hzero]
    rfl
  · by_cases hd : code / 0x1000 = 0xD
    · refine ⟨0x80, 0x9F, ?_, by omega, by omega⟩
      rw [hd]
      rfl
    · refine ⟨0x80, 0xBF, ?_, by omega, by omega⟩
      rw [first, if_neg (by omega), if_neg (by omega), if_neg (by omega), if_neg (by omega),
        if_pos (by omega), Nat.add_sub_cancel_left]

/-- The first of four bytes, and the bounds in which the second one lies. -/
theorem first_of_four {code : Nat} (hl : 0x10000 ≤ code) (hh : code < 0x110000) :
    ∃ low high, first (0xF0 + code / 0x40000) = ([], .inside (code / 0x40000) low high 2) ∧
      low ≤ 0x80 + code / 0x1000 % 0x40 ∧ 0x80 + code / 0x1000 % 0x40 ≤ high := by
  by_cases hzero : code / 0x40000 = 0
  · refine ⟨0x90, 0xBF, ?_, by omega, by omega⟩
    rw [hzero]
    rfl
  · by_cases hlast : code / 0x40000 = 4
    · refine ⟨0x80, 0x8F, ?_, by omega, by omega⟩
      rw [hlast]
      rfl
    · refine ⟨0x80, 0xBF, ?_, by omega, by omega⟩
      rw [first, if_neg (by omega), if_neg (by omega), if_neg (by omega), if_neg (by omega),
        if_neg (by omega), if_neg (by omega), if_pos (by omega), Nat.add_sub_cancel_left]

/-- The bytes of a character are read as the character. -/
theorem decode_encodeChar_append (c : Char) (rest : List Nat) :
    decode (encodeChar c ++ rest) = c :: decode rest := by
  have valid : c.toNat < 0xD800 ∨ 0xDFFF < c.toNat ∧ c.toNat < 0x110000 := c.valid
  have self := Char.ofNat_toNat c
  generalize hcode : c.toNat = code at valid self
  unfold decode encodeChar
  simp only [hcode]
  split
  · next h => simp [decodeFrom_cons, step, first, h, self]
  · split
    · next h =>
        have lead : first (0xC0 + code / 0x40) = ([], .inside (code / 0x40) 0x80 0xBF 0) := by
          rw [first, if_neg (by omega), if_pos (by omega), Nat.add_sub_cancel_left]
        have whole : code / 0x40 * 0x40 + (0x80 + code % 0x40 - 0x80) = code := by omega
        simp only [List.cons_append, List.nil_append, decodeFrom_cons, step.eq_1, lead]
        rw [step_last (by omega) (by omega), whole, self]
        rfl
    · split
      · next h =>
          rcases first_of_three (Nat.le_of_not_lt ‹¬ code < 0x800›) h (by omega) with
            ⟨low, high, lead, hlow, hhigh⟩
          have whole : (code / 0x1000 * 0x40 + (0x80 + code / 0x40 % 0x40 - 0x80)) * 0x40 +
              (0x80 + code % 0x40 - 0x80) = code := by omega
          simp only [List.cons_append, List.nil_append, decodeFrom_cons, step.eq_1, lead]
          rw [step_more hlow hhigh, step_last (by omega) (by omega), whole, self]
          rfl
      · next h =>
          rcases first_of_four (Nat.le_of_not_lt h) (by omega) with
            ⟨low, high, lead, hlow, hhigh⟩
          have whole : ((code / 0x40000 * 0x40 + (0x80 + code / 0x1000 % 0x40 - 0x80)) * 0x40 +
              (0x80 + code / 0x40 % 0x40 - 0x80)) * 0x40 + (0x80 + code % 0x40 - 0x80) =
              code := by omega
          simp only [List.cons_append, List.nil_append, decodeFrom_cons, step.eq_1, lead]
          rw [step_more hlow hhigh, step_more (by omega) (by omega),
            step_last (by omega) (by omega), whole, self]
          rfl

/-- The bytes of a text are read as the text. -/
theorem decode_encode_append (text : Text) (rest : List Nat) :
    decode (encode text ++ rest) = text ++ decode rest := by
  induction text with
  | nil => rfl
  | cons c text ih =>
      rw [encode, List.flatMap_cons, List.append_assoc, decode_encodeChar_append]
      exact congrArg (c :: ·) ih

/-- The bytes of a text are read as the text. -/
theorem decode_encode (text : Text) : decode (encode text) = text := by
  simpa [decode, decodeFrom] using decode_encode_append text []

end Utf8

end FacetedSearch
