import EntityGen.Json
import EntityGen.Proofs.Number.Numeral

/-! The texts of JSON, with the words for numbers that are none. A part of a text stands between two places, of
which each is given by what is left of the text there. -/

namespace EntityGen.Json

open Number

/-- Nothing but space is between two places. -/
def Spaced (s rest : List Char) : Prop := ∃ sp, (∀ c ∈ sp, isSpace c = true) ∧ s = sp ++ rest

/-! ## Numbers -/

/-- There is a digit, and nothing else. -/
def IsDigits (s : List Char) : Prop := s ≠ [] ∧ ∀ c ∈ s, c.isDigit = true

/-- There are no superfluous zeros in front of a whole number. -/
def IsWhole (s : List Char) : Prop := IsDigits s ∧ (s.head? = some '0' → s = ['0'])

/-- What may follow a whole number: a point with digits. -/
def IsFraction (s : List Char) : Prop := s = [] ∨ ∃ ds, IsDigits ds ∧ s = '.' :: ds

/-- What may follow those: a power of ten. -/
def IsPower (s : List Char) : Prop :=
  s = [] ∨ ∃ e sign ds, e ∈ ['e', 'E'] ∧ sign ∈ [[], ['+'], ['-']] ∧ IsDigits ds ∧ s = e :: (sign ++ ds)

/-- A number. If it is whole it has so many digits at most. -/
inductive IsNumeral (digits : Nat) : List Char → Prop
  | intro {sign ds fraction power : List Char} (hsign : sign ∈ [[], ['-']]) (hds : IsWhole ds)
    (hfraction : IsFraction fraction) (hpower : IsPower power)
    (hfits : fraction = [] → power = [] → ds.length ≤ digits) :
    IsNumeral digits (sign ++ (ds ++ (fraction ++ power)))

/-! ## Strings -/

/-- What may stand behind a backslash. -/
def escapes : List Char := ['"', '\\', '/', 'b', 'f', 'n', 'r', 't']

/-- Four hexadecimal digits. -/
def IsUnit (s : List Char) : Prop := s.length = 4 ∧ ∀ c ∈ s, isDigitOf 16 c = true

/-- The characters of a string and the quote that closes it. -/
inductive Content : List Char → List Char → Prop
  | close {rest : List Char} : Content ('"' :: rest) rest
  | plain {c : Char} {s rest : List Char} (hc : 0x20 ≤ c.toNat) (hquote : c ≠ '"') (hslash : c ≠ '\\')
    (h : Content s rest) : Content (c :: s) rest
  | escape {e : Char} {s rest : List Char} (he : e ∈ escapes) (h : Content s rest) :
    Content ('\\' :: e :: s) rest
  | unit {ds s rest : List Char} (hds : IsUnit ds) (h : Content s rest) :
    Content ('\\' :: 'u' :: (ds ++ s)) rest

/-! ## Values -/

def words : List String := ["null", "true", "false", "NaN", "Infinity", "-Infinity"]

/-- What a text is made of: values, and the insides of lists and mappings with the brackets that close them. -/
inductive Part
  | value
  | items
  | members

/-- A part is between two places. Its whole numbers have so many digits at most, and so many containers are in
each other. -/
inductive Spells (digits : Nat) : Part → (depth : Nat) → List Char → List Char → Prop
  | word {depth : Nat} {w : String} {rest : List Char} (hw : w ∈ words) :
    Spells digits .value depth (w.toList ++ rest) rest
  | numeral {depth : Nat} {t rest : List Char} (ht : IsNumeral digits t) :
    Spells digits .value depth (t ++ rest) rest
  | string {depth : Nat} {s rest : List Char} (h : Content s rest) :
    Spells digits .value depth ('"' :: s) rest
  | emptyList {depth : Nat} {s rest : List Char} (hs : Spaced s (']' :: rest)) :
    Spells digits .value (depth + 1) ('[' :: s) rest
  | list {depth : Nat} {s t rest : List Char} (hs : Spaced s t) (h : Spells digits .items depth t rest) :
    Spells digits .value (depth + 1) ('[' :: s) rest
  | emptyMap {depth : Nat} {s rest : List Char} (hs : Spaced s ('\x7d' :: rest)) :
    Spells digits .value (depth + 1) ('\x7b' :: s) rest
  | map {depth : Nat} {s t rest : List Char} (hs : Spaced s t) (h : Spells digits .members depth t rest) :
    Spells digits .value (depth + 1) ('\x7b' :: s) rest
  | lastItem {depth : Nat} {s t rest : List Char} (h : Spells digits .value depth s t)
    (ht : Spaced t (']' :: rest)) : Spells digits .items depth s rest
  | item {depth : Nat} {s t u next rest : List Char} (h : Spells digits .value depth s t)
    (ht : Spaced t (',' :: u)) (hu : Spaced u next) (hnext : Spells digits .items depth next rest) :
    Spells digits .items depth s rest
  | lastMember {depth : Nat} {s t u w x rest : List Char} (hs : Content s t) (ht : Spaced t (':' :: u))
    (hu : Spaced u w) (h : Spells digits .value depth w x) (hx : Spaced x ('\x7d' :: rest)) :
    Spells digits .members depth ('"' :: s) rest
  | member {depth : Nat} {s t u w x y next rest : List Char} (hs : Content s t) (ht : Spaced t (':' :: u))
    (hu : Spaced u w) (h : Spells digits .value depth w x) (hx : Spaced x (',' :: y)) (hy : Spaced y next)
    (hnext : Spells digits .members depth next rest) : Spells digits .members depth ('"' :: s) rest

/-- A text of JSON: a value with nothing but space around it. -/
def IsText (digits depth : Nat) (s : List Char) : Prop :=
  ∃ t rest, Spaced s t ∧ Spells digits .value depth t rest ∧ Spaced rest []

end EntityGen.Json
