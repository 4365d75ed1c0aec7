/-
Module: FacetedSearch.Text.Template
Purpose: Messages with places that texts are put into.
Imports: FacetedSearch.Text.Numeral, FacetedSearch.Text.Quoted
Main exports: Template.Fault, Template.Fault.message, Template.Place, Template.fill
-/
import FacetedSearch.Text.Numeral
import FacetedSearch.Text.Quoted

namespace FacetedSearch

namespace Template

/-!
### Why a template is not filled

The texts and the places of a template must fit each other: each place takes one text, and only
places for texts do.
-/

/-- Why a template is not filled. -/
inductive Fault where
  /-- The template ends inside a place. -/
  | incomplete
  /-- A place asks for a text by name. -/
  | named
  | tooWide
  | tooPrecise
  /-- A place asks for its width or precision among the texts. -/
  | starred
  /-- A place is left without a text. -/
  | missing
  /-- A text is left without a place. -/
  | surplus
  | notReal (letter : Char)
  | notWhole (letter : Char)
  | notFloat
  | notCharacter
  /-- No place ends with the letter that stands at the index. -/
  | unknown (letter : Char) (index : Nat)
deriving Repr, DecidableEq

/-- A fault as it is reported. -/
def Fault.message : Fault → Text
  | .incomplete => "incomplete format".toList
  | .named => "format requires a mapping".toList
  | .tooWide => "width too big".toList
  | .tooPrecise => "precision too big".toList
  | .starred => "* wants int".toList
  | .missing => "not enough arguments for format string".toList
  | .surplus => "not all arguments converted during string formatting".toList
  | .notReal letter => '%' :: letter :: " format: a real number is required, not str".toList
  | .notWhole letter => '%' :: letter :: " format: an integer is required, not str".toList
  | .notFloat => "must be real number, not str".toList
  | .notCharacter => "%c requires int or char".toList
  | .unknown letter index =>
      "unsupported format character '".toList ++
        [if 31 ≤ letter.toNat ∧ letter.toNat < 127 then letter else '?'] ++ "' (0x".toList ++
        Text.hex 1 letter.toNat ++ ") at index ".toList ++ Numeral.ofNat index

/-!
### Places

A place starts with a percent sign.  Behind it may stand flags, a width, a point and a precision,
and a letter for the size of a number, which counts for nothing here.  The letter at the end says
how the text is shown.
-/

/-- A place in a template: whether the text stands at its left end, how wide it is at least, how
many characters of a text it takes at most, and the letter at its end. -/
structure Place where
  left : Bool
  width : Nat
  precision : Option Nat
  letter : Char
deriving Repr, DecidableEq

/-- The flags; only the minus sign means something to a text. -/
def isFlag (c : Char) : Bool := c == '-' || c == '+' || c == ' ' || c == '#' || c == '0'

/-- The greatest width, and the greatest precision. -/
def widest : Nat := 0x7fffffffffffffff
def mostPrecise : Nat := 0x7fffffff

/-- The number that a text starts with, zero if there is none, and what stands behind it. An
asterisk asks for a number among the arguments, where there are only texts. -/
def number (arguments : List Text) (limit : Nat) (tooLarge : Fault) (text : Text) :
    Except Fault (Nat × Text) :=
  if text.head? = some '*' then .error (if arguments = [] then .missing else .starred)
  else
    let number := Numeral.value (text.takeWhile Char.isDigit)
    if limit < number then .error tooLarge else .ok (number, text.dropWhile Char.isDigit)

/-- The precision behind a point, if there is one, and what stands behind it. -/
def precision? (arguments : List Text) : Text → Except Fault (Option Nat × Text)
  | '.' :: rest =>
      (number arguments mostPrecise .tooPrecise rest).map fun (n, rest) => (some n, rest)
  | rest => .ok (none, rest)

/-- A text without a letter for the size of a number in front. -/
def skipSize : Text → Text
  | c :: rest => if c = 'h' ∨ c = 'l' ∨ c = 'L' then rest else c :: rest
  | [] => []

/-- The place behind a percent sign, and what stands behind the place. -/
def Place.read (arguments : List Text) (text : Text) : Except Fault (Place × Text) :=
  if text.head? = some '(' then .error .named
  else
    match number arguments widest .tooWide (text.dropWhile isFlag) with
    | .error fault => .error fault
    | .ok (width, rest) =>
        match precision? arguments rest with
        | .error fault => .error fault
        | .ok (precision, rest) =>
            match skipSize rest with
            | [] => .error .incomplete
            | letter :: rest =>
                .ok (⟨(text.takeWhile isFlag).contains '-', width, precision, letter⟩, rest)

/-- A text filled up with blanks to the width of the place. -/
def Place.pad (place : Place) (text : Text) : Text :=
  let blanks := List.replicate (place.width - text.length) ' '
  if place.left then text ++ blanks else blanks ++ text

/-- As much of a text as the place takes. -/
def Place.cut (place : Place) (text : Text) : Text :=
  match place.precision with
  | none => text
  | some most => text.take most

/-- Why a place with a letter at the index does not take a text. -/
def refusal (letter : Char) (index : Nat) : Fault :=
  if letter ∈ ['d', 'i', 'u'] then .notReal letter
  else if letter ∈ ['o', 'x', 'X'] then .notWhole letter
  else if letter ∈ ['e', 'E', 'f', 'F', 'g', 'G'] then .notFloat
  else .unknown letter index

/-- A text as the place shows it, whose letter stands at the index: as it is, between quote marks,
or as a single character. -/
def Place.show? (place : Place) (index : Nat) (text : Text) : Except Fault Text :=
  match place.letter with
  | 's' => .ok (place.pad (place.cut text))
  | 'r' => .ok (place.pad (place.cut (Text.quotedName text)))
  | 'a' => .ok (place.pad (place.cut (Text.asciiName text)))
  | 'c' => if text.length = 1 then .ok (place.pad text) else .error .notCharacter
  | letter => .error (refusal letter index)

theorem length_of_number {arguments : List Text} {limit n : Nat} {tooLarge : Fault}
    {text rest : Text} (h : number arguments limit tooLarge text = .ok (n, rest)) :
    rest.length ≤ text.length := by
  unfold number at h
  split at h
  · cases h
  · dsimp only at h
    split at h
    · cases h
    · cases h
      exact (List.dropWhile_sublist _).length_le

theorem length_of_precision? {arguments : List Text} {precision : Option Nat} {text rest : Text}
    (h : precision? arguments text = .ok (precision, rest)) : rest.length ≤ text.length := by
  unfold precision? at h
  split at h
  · next behind =>
      cases read : number arguments mostPrecise .tooPrecise behind with
      | error fault =>
          rw [read] at h
          cases h
      | ok pair =>
          have shorter := length_of_number read
          rw [read] at h
          cases h
          exact Nat.le_succ_of_le shorter
  · cases h
    exact Nat.le_refl _

theorem length_skipSize_le (text : Text) : (skipSize text).length ≤ text.length := by
  unfold skipSize
  split
  · split
    · exact Nat.le_succ _
    · exact Nat.le_refl _
  · exact Nat.le_refl _

/-- What stands behind a place is shorter than what stands behind its percent sign. -/
theorem Place.length_of_read {arguments : List Text} {text rest : Text} {place : Place}
    (h : Place.read arguments text = .ok (place, rest)) : rest.length < text.length := by
  unfold Place.read at h
  split at h
  · cases h
  · split at h
    · cases h
    · next width behind_width read_width =>
        split at h
        · cases h
        · next precision behind_precision read_precision =>
            split at h
            · cases h
            · next letter behind letters =>
                cases h
                have flags : (text.dropWhile isFlag).length ≤ text.length :=
                  (List.dropWhile_sublist _).length_le
                have width_le := length_of_number read_width
                have precision_le := length_of_precision? read_precision
                have size_le := length_skipSize_le behind_precision
                rw [letters, List.length_cons] at size_le
                omega

/-!
### Filling

From left to right each place takes the next text.  Two percent signs are one.
-/

/-- The rest of a template of a length, with the texts that are left in its places. -/
def fillRest (length : Nat) (arguments : List Text) : Text → Except Fault Text
  | [] => if arguments = [] then .ok [] else .error .surplus
  | '%' :: '%' :: rest => (fillRest length arguments rest).map ('%' :: ·)
  | '%' :: rest =>
      match _read : Place.read arguments rest with
      | .error fault => .error fault
      | .ok (place, behind) =>
          match arguments with
          | [] => .error .missing
          | text :: arguments =>
              match place.show? (length - behind.length - 1) text with
              | .error fault => .error fault
              | .ok shown => (fillRest length arguments behind).map (shown ++ ·)
  | c :: rest => (fillRest length arguments rest).map (c :: ·)
termination_by template => template.length
decreasing_by
  · exact Nat.lt_succ_of_lt (Nat.lt_succ_self _)
  · exact Nat.lt_succ_of_lt (Place.length_of_read _read)
  · exact Nat.lt_succ_self _

/-- A template without places takes no texts. -/
theorem fillRest_of_no_percent {template : Text} (no_percent : '%' ∉ template) (length : Nat)
    (arguments : List Text) :
    fillRest length arguments template =
      if arguments = [] then .ok template else .error .surplus := by
  induction template with
  | nil => rw [fillRest]
  | cons c template ih =>
      obtain ⟨not_percent, rest⟩ := List.ne_and_not_mem_of_not_mem_cons no_percent
      have plain : fillRest length arguments (c :: template) =
          (fillRest length arguments template).map (c :: ·) := by
        rw [fillRest]
        · rintro _ rfl
          exact absurd rfl not_percent
        · rintro rfl
          exact absurd rfl not_percent
      rw [plain, ih rest]
      split <;> rfl

/-- A template with texts in its places. -/
def fill (template : Text) (arguments : List Text) : Except Fault Text :=
  fillRest template.length arguments template

end Template

end FacetedSearch
