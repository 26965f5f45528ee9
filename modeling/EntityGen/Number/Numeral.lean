import EntityGen.Number.Double
import EntityGen.Text.Blank
import EntityGen.Text.Digit

/-! Reading numbers. -/

namespace EntityGen.Number

open EntityGen.Text

/-- The most digits of a whole number that is read or written in decimal. -/
def digitLimit : Nat := 4300

/-- The value of a digit up to thirty-six, in either case. -/
def digitOf? (c : Char) : Option Nat :=
  if c.isDigit then some (c.toNat - '0'.toNat)
  else if c.isLower then some (c.toNat - 'a'.toNat + 10)
  else if c.isUpper then some (c.toNat - 'A'.toNat + 10)
  else none

/-- The number with the digits `cs` after those of `n`; `none` if a character is no digit. -/
def readDigits (base : Nat) (n : Nat) : List Char → Option Nat
  | [] => some n
  | c :: rest =>
    match digitOf? c with
    | some d => if d < base then readDigits base (n * base + d) rest else none
    | none => none

/-- A number has at least one digit. -/
def natOfDigits? (base : Nat) (cs : List Char) : Option Nat :=
  if cs.isEmpty then none else readDigits base 0 cs

def ofDigits (base : Nat) (ds : List Nat) : Nat := ds.foldl (· * base + ·) 0

/-! ## Numbers as a person may write them -/

/-- A character of a number: the digits and blanks of every script count as the plain ones. -/
def plainChar (c : Char) : Char :=
  if c.toNat < 0x7f then c
  else if isBlank c then ' '
  else match digitValue? c with
    | some d => Nat.digitChar d
    | none => '?'

/-- The blanks around a number; the information separators are none. -/
def isNumberBlank (c : Char) : Bool := c = ' ' || (9 ≤ c.toNat && c.toNat ≤ 13)

/-- The characters of a number without the blanks around it. -/
def numberText (cs : List Char) : List Char :=
  dropEnd isNumberBlank ((cs.map plainChar).dropWhile isNumberBlank)

/-- Digits to a base with single low lines between them. -/
def digits? (base : Nat) : List Char → Option (List Nat)
  | [] => none
  | c :: rest => go c rest
where
  digit? (c : Char) : Option Nat := (digitOf? c).filter (· < base)
  go (c : Char) : List Char → Option (List Nat)
    | [] => (digit? c).map ([·])
    | '_' :: d :: rest => return (← digit? c) :: (← go d rest)
    | d :: rest => return (← digit? c) :: (← go d rest)

/-- A sign, if there is one, and the rest. -/
def takeSign : List Char → Bool × List Char
  | '-' :: rest => (true, rest)
  | '+' :: rest => (false, rest)
  | cs => (false, cs)

/-- The mark that may stand behind a zero in front of a number to a base. -/
def baseMark? : (base : Nat) → Option Char
  | 2 => some 'b'
  | 8 => some 'o'
  | 16 => some 'x'
  | _ => none

/-- The digits after a zero with the mark of the base, and a low line after it. -/
def afterMark (base : Nat) : List Char → List Char
  | '0' :: m :: rest =>
    if baseMark? base = some m.toLower then
      match rest with
      | '_' :: ds => ds
      | ds => ds
    else '0' :: m :: rest
  | cs => cs

/-- A whole number to a base. Only decimal numbers are too long at some length. -/
def intOfBase? (base : Nat) (cs : List Char) : Option Int := do
  let (negative, body) := takeSign (numberText cs)
  let ds ← digits? base (afterMark base body)
  if base = 10 && digitLimit < ds.length then none
  let n := ofDigits base ds
  return if negative then -(n : Int) else n

def int? (cs : List Char) : Option Int := intOfBase? 10 cs

/-- The part before the first character of a class, and what follows it if it was found. -/
def cutAt (p : Char → Bool) (cs : List Char) : List Char × Option (List Char) :=
  match cs.dropWhile (!p ·) with
  | [] => (cs, none)
  | _ :: rest => (cs.takeWhile (!p ·), some rest)

/-- A decimal number with an optional point and exponent; one side of the point may be empty. -/
def decimal? (negative : Bool) (cs : List Char) : Option Double := do
  let (body, power) := cutAt (fun c => c = 'e' || c = 'E') cs
  let exponent ← match power with
    | none => some 0
    | some p =>
      let (minus, ds) := takeSign p
      let n := ofDigits 10 (← digits? 10 ds)
      some (if minus then -(n : Int) else n)
  let (whole, fraction) := cutAt (· = '.') body
  let fraction := fraction.getD []
  guard !(whole.isEmpty && fraction.isEmpty)
  let ws ← if whole.isEmpty then some [] else digits? 10 whole
  let fs ← if fraction.isEmpty then some [] else digits? 10 fraction
  return Double.ofDecimal negative (ofDigits 10 (ws ++ fs)) (exponent - fs.length)

/-- A number with blanks around it, a sign, `inf`, `infinity`, `nan` in any case, low lines between
digits. -/
def Double.parse? (cs : List Char) : Option Double :=
  let (negative, body) := takeSign (numberText cs)
  let word := body.map Char.toLower
  if word = "inf".toList || word = "infinity".toList then some (.infinite negative)
  else if word = "nan".toList then some .nan
  else decimal? negative body

end EntityGen.Number
