/-
Module: FacetedSearch.Json.Printer
Purpose: Writing JSON values on one line or indented.
Imports: FacetedSearch.Json.Basic, FacetedSearch.Text.Numeral
Main exports: Json.Style, Json.write, Json.compact, Json.spaced, Json.indented
-/
import FacetedSearch.Json.Basic
import FacetedSearch.Text.Numeral

namespace FacetedSearch

namespace Json

/-!
### Styles

The three styles differ in what stands between items and after a member's name, and in whether
items stand on lines of their own.  No style changes the inside of a string.
-/

/-- What stands between the items of a written value. -/
structure Style where
  /-- Between two items. -/
  comma : Text
  /-- Between a member's name and its value. -/
  colon : Text
  /-- Items on lines of their own, this much further in for each level. -/
  indent : Option Nat
deriving Repr, DecidableEq

/-- No blanks at all. -/
def Style.compact : Style := ⟨",".toList, ":".toList, none⟩

/-- One line, with a blank after each comma and colon. -/
def Style.spaced : Style := ⟨", ".toList, ": ".toList, none⟩

/-- One item a line, two blanks further in for each level. -/
def Style.indented : Style := ⟨",".toList, ": ".toList, some 2⟩

/-- The start of a new line at a level; nothing in a style of one line. -/
def Style.newline (style : Style) (level : Nat) : Text :=
  match style.indent with
  | none => []
  | some width => '\n' :: List.replicate (width * level) ' '

/-!
### Strings and numbers

Every character below the blank is escaped, and so are the quote mark and the backslash; all
others stand for themselves.
-/

/-- How a character is written inside a string. -/
def escape (c : Char) : Text :=
  if c = '"' then "\\\"".toList
  else if c = '\\' then "\\\\".toList
  else if c = '\n' then "\\n".toList
  else if c = '\r' then "\\r".toList
  else if c = '\t' then "\\t".toList
  else if c = '\x08' then "\\b".toList
  else if c = '\x0c' then "\\f".toList
  else if c.toNat < 0x20 then
    "\\u00".toList ++ [Nat.digitChar (c.toNat / 16), Nat.digitChar (c.toNat % 16)]
  else [c]

/-- A string between its quote marks. -/
def quoted (text : Text) : Text := '"' :: text.flatMap escape ++ ['"']

/-- Digits as they are. -/
def Digits.toText (digits : Digits) : Text :=
  (digits.first :: digits.more).map fun digit => Nat.digitChar digit.val

/-- An exponent as it was spelled. -/
def Exponent.toText (exponent : Exponent) : Text :=
  (if exponent.capital then 'E' else 'e') ::
    (match exponent.sign with
      | none => []
      | some minus => if minus then ['-'] else ['+']) ++ exponent.digits.toText

/-- What follows the whole part. -/
def Tail.toText : Tail → Text
  | .fraction digits exponent =>
      '.' :: digits.toText ++ (match exponent with
        | none => []
        | some exponent => exponent.toText)
  | .power exponent => exponent.toText

/-- A number with a fraction or an exponent. -/
def Decimal.toText (value : Decimal) : Text :=
  (if value.negative then ['-'] else []) ++ Numeral.ofNat value.whole ++ value.tail.toText

/-!
### Values
-/

mutual

/-- A value at a level of nesting; an empty array or object stays on its line. -/
def write (style : Style) (level : Nat) : Json → Text
  | .null => "null".toList
  | .bool true => "true".toList
  | .bool false => "false".toList
  | .int value => Numeral.ofInt value
  | .decimal value => value.toText
  | .str text => quoted text
  | .arr [] => "[]".toList
  | .arr (item :: items) =>
      '[' :: style.newline (level + 1) ++ write style (level + 1) item ++
        writeItems style (level + 1) items ++ style.newline level ++ [']']
  | .obj [] => ['{', '}']
  | .obj ((name, value) :: members) =>
      '{' :: style.newline (level + 1) ++ quoted name ++ style.colon ++
        write style (level + 1) value ++ writeMembers style (level + 1) members ++
        style.newline level ++ ['}']

/-- The items after the first. -/
def writeItems (style : Style) (level : Nat) : List Json → Text
  | [] => []
  | item :: items =>
      style.comma ++ style.newline level ++ write style level item ++
        writeItems style level items

/-- The members after the first. -/
def writeMembers (style : Style) (level : Nat) : List (Text × Json) → Text
  | [] => []
  | (name, value) :: members =>
      style.comma ++ style.newline level ++ quoted name ++ style.colon ++
        write style level value ++ writeMembers style level members

end

/-- A value without blanks. -/
def compact (value : Json) : Text := write .compact 0 value

/-- A value on one line, with a blank after each comma and colon. -/
def spaced (value : Json) : Text := write .spaced 0 value

/-- A value with one item a line. -/
def indented (value : Json) : Text := write .indented 0 value

end Json

end FacetedSearch
