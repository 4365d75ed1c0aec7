/-
Module: FacetedSearch.Json.Reader
Purpose: Reading JSON values back.
Imports: FacetedSearch.Json.Basic, FacetedSearch.Text.Hex, FacetedSearch.Text.Numeral
Main exports: Json.read?
-/
import FacetedSearch.Json.Basic
import FacetedSearch.Text.Hex
import FacetedSearch.Text.Numeral

namespace FacetedSearch

namespace Json

/-!
### Reading

A reader takes what it reads off the front of a text and gives the rest.  The readers of values,
items and members call each other on shorter and shorter rests; the number that they carry bounds
the depth of these calls, and the length of the text is always enough.
-/

/-- Blanks may stand between any two parts of a value. -/
def isBlank (c : Char) : Bool := c == ' ' || c == '\n' || c == '\r' || c == '\t'

/-- A text without the blanks in front. -/
def skipBlanks (text : Text) : Text := text.dropWhile isBlank

/-- The number of four hexadecimal digits. -/
def hexValue4? (a b c d : Char) : Option Nat := do
  let a ← Text.hexValue? a
  let b ← Text.hexValue? b
  let c ← Text.hexValue? c
  let d ← Text.hexValue? d
  return ((a * 16 + b) * 16 + c) * 16 + d

/-- What a single letter after a backslash stands for. -/
def unescape? : Char → Option Char
  | '"' => some '"'
  | '\\' => some '\\'
  | '/' => some '/'
  | 'b' => some '\x08'
  | 'f' => some '\x0c'
  | 'n' => some '\n'
  | 'r' => some '\r'
  | 't' => some '\t'
  | _ => none

/-- A character in front of what was read after it. -/
def prepend (c : Char) : Text × Text → Text × Text
  | (text, rest) => (c :: text, rest)

/-- The character outside the basic plane that a high and a low unit make together. -/
def joinUnits? (high low : Nat) : Option Char :=
  if high < 0xDC00 ∧ 0xDC00 ≤ low ∧ low ≤ 0xDFFF then
    some (Char.ofNat (0x10000 + (high - 0xD800) * 0x400 + (low - 0xDC00)))
  else none

/-- The inside of a string up to its closing quote mark. A character outside the basic plane may
be escaped as two units; a unit of such a pair on its own is refused. -/
def readString? : Text → Option (Text × Text)
  | [] => none
  | c :: rest =>
      if c = '"' then some ([], rest)
      else if c = '\\' then
        match rest with
        | 'u' :: a :: b :: c :: d :: rest =>
            match hexValue4? a b c d with
            | none => none
            | some unit =>
                if unit < 0xD800 ∨ 0xDFFF < unit then
                  (readString? rest).map (prepend (Char.ofNat unit))
                else
                  match rest with
                  | '\\' :: 'u' :: e :: f :: g :: h :: rest =>
                      match (hexValue4? e f g h).bind (joinUnits? unit) with
                      | none => none
                      | some c => (readString? rest).map (prepend c)
                  | _ => none
        | letter :: rest =>
            match unescape? letter with
            | none => none
            | some c => (readString? rest).map (prepend c)
        | [] => none
      else if c.toNat < 0x20 then none
      else (readString? rest).map (prepend c)

/-- The digit of a character. -/
def digitOf (c : Char) : Fin 10 := Fin.ofNat 10 (c.toNat - '0'.toNat)

/-- One digit or more. -/
def readDigits? (text : Text) : Option (Digits × Text) :=
  match text.takeWhile Char.isDigit with
  | [] => none
  | first :: more => some (⟨digitOf first, more.map digitOf⟩, text.dropWhile Char.isDigit)

/-- An exponent, if the text starts with its letter. -/
def readExponent? : Text → Option (Option Exponent × Text)
  | letter :: rest =>
      if letter = 'e' ∨ letter = 'E' then
        let (sign, rest) : Option Bool × Text := match rest with
          | '-' :: rest => (some true, rest)
          | '+' :: rest => (some false, rest)
          | rest => (none, rest)
        (readDigits? rest).map fun (digits, rest) => (some ⟨letter = 'E', sign, digits⟩, rest)
      else some (none, letter :: rest)
  | [] => some (none, [])

/-- What follows a whole part: nothing, or a fraction, an exponent, or both. -/
def readTail? : Text → Option (Option Tail × Text)
  | '.' :: rest => do
      let (digits, rest) ← readDigits? rest
      let (exponent, rest) ← readExponent? rest
      return (some (.fraction digits exponent), rest)
  | rest => do
      let (exponent, rest) ← readExponent? rest
      return (exponent.map .power, rest)

/-- A number; a whole part of more than one digit does not start with zero. -/
def readNumber? (text : Text) : Option (Json × Text) := do
  let (negative, text) : Bool × Text := match text with
    | '-' :: rest => (true, rest)
    | rest => (false, rest)
  let digits := text.takeWhile Char.isDigit
  if digits = [] ∨ (digits.head? = some '0' ∧ digits.length ≠ 1) then none
  else
    let whole := Numeral.value digits
    let (tail, rest) ← readTail? (text.dropWhile Char.isDigit)
    match tail with
    | none => return (.int (if negative then -whole else whole), rest)
    | some tail => return (.decimal ⟨negative, whole, tail⟩, rest)

mutual

/-- A value, after any blanks. -/
def readValue? : Nat → Text → Option (Json × Text)
  | 0, _ => none
  | depth + 1, text =>
      match skipBlanks text with
      | 'n' :: 'u' :: 'l' :: 'l' :: rest => some (.null, rest)
      | 't' :: 'r' :: 'u' :: 'e' :: rest => some (.bool true, rest)
      | 'f' :: 'a' :: 'l' :: 's' :: 'e' :: rest => some (.bool false, rest)
      | '"' :: rest => (readString? rest).map fun (text, rest) => (.str text, rest)
      | '[' :: rest =>
          match skipBlanks rest with
          | ']' :: rest => some (.arr [], rest)
          | rest => do
              let (item, rest) ← readValue? depth rest
              let (items, rest) ← readItems? depth rest
              return (.arr (item :: items), rest)
      | '{' :: rest =>
          match skipBlanks rest with
          | '}' :: rest => some (.obj [], rest)
          | rest => do
              let (member, rest) ← readMember? depth rest
              let (members, rest) ← readMembers? depth rest
              return (.obj (member :: members), rest)
      | rest => readNumber? rest

/-- The items after the first, up to the closing bracket. -/
def readItems? : Nat → Text → Option (List Json × Text)
  | 0, _ => none
  | depth + 1, text =>
      match skipBlanks text with
      | ']' :: rest => some ([], rest)
      | ',' :: rest => do
          let (item, rest) ← readValue? depth rest
          let (items, rest) ← readItems? depth rest
          return (item :: items, rest)
      | _ => none

/-- A name, a colon and a value. -/
def readMember? : Nat → Text → Option ((Text × Json) × Text)
  | 0, _ => none
  | depth + 1, text =>
      match skipBlanks text with
      | '"' :: rest => do
          let (name, rest) ← readString? rest
          match skipBlanks rest with
          | ':' :: rest => do
              let (value, rest) ← readValue? depth rest
              return ((name, value), rest)
          | _ => none
      | _ => none

/-- The members after the first, up to the closing brace. -/
def readMembers? : Nat → Text → Option (List (Text × Json) × Text)
  | 0, _ => none
  | depth + 1, text =>
      match skipBlanks text with
      | '}' :: rest => some ([], rest)
      | ',' :: rest => do
          let (member, rest) ← readMember? depth rest
          let (members, rest) ← readMembers? depth rest
          return (member :: members, rest)
      | _ => none

end

/-- The value that a whole text holds, with blanks around it or without. -/
def read? (text : Text) : Option Json :=
  match readValue? (text.length + 1) text with
  | some (value, rest) => if skipBlanks rest = [] then some value else none
  | none => none

end Json

end FacetedSearch
