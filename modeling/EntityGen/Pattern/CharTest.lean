import EntityGen.Text.Alphanumeric
import EntityGen.Text.Blank
import EntityGen.Text.Digit
import EntityGen.Text.UpperCase

/-! Tests on one character. Patterns name characters by code point, so that they can also name halves of
surrogate pairs, which no text has. -/

namespace EntityGen.Pattern

open Text

/-- How far two characters that differ in case count as one. -/
inductive CaseMode
  | exact
  | ascii
  | unicode
  deriving DecidableEq, Inhabited

namespace CaseMode

def lower : CaseMode → Nat → Nat
  | .exact, n => n
  | .ascii, n => if 65 ≤ n && n ≤ 90 then n + 32 else n
  | .unicode, n => lowerCode n

def lowerChar (m : CaseMode) (c : Char) : Char := Char.ofNat (m.lower c.toNat)

/-- Whether there is a second case of a code point. -/
def hasTwin : CaseMode → Nat → Bool
  | .exact, _ => false
  | .ascii, n => (65 ≤ n && n ≤ 90) || (97 ≤ n && n ≤ 122)
  | .unicode, n => hasCase n

/-- All that count as a lower-case code point and are in lower case themselves. -/
def group : CaseMode → Nat → List Nat
  | .unicode, n => caseGroup n
  | _, n => [n]

/-- Every code point with the lower case `n`. -/
def withLower : CaseMode → Nat → List Nat
  | .exact, n => [n]
  | .ascii, n => if 97 ≤ n && n ≤ 122 then [n, n - 32] else [n]
  | .unicode, n =>
    n :: ((lowerRuns.map fun r => ((n : Int) - r.shift).toNat).filter fun m => m ≠ n && lowerCode m = n)

end CaseMode

inductive Category
  | digit
  | blank
  | word
  deriving DecidableEq

def Category.test (ascii : Bool) : Category → Char → Bool
  | .digit, c => if ascii then c.isDigit else isDecimalDigit c
  | .blank, c => if ascii then c = ' ' || (9 ≤ c.toNat && c.toNat ≤ 13) else isBlank c
  | .word, c => if ascii then isAsciiWord c else isWord c

/-- What a set may list. -/
inductive Member
  | code (n : Nat)
  | range (low high : Nat)
  | category (k : Category) (negated : Bool)
  deriving DecidableEq

/-- The last code point of the basic plane. -/
def lastBasic : Nat := 0xFFFF

/-- Whether a range reaches a run of letters that change their case. -/
def meetsRun (low high : Nat) (r : CaseRun) : Bool :=
  let first := if low ≤ r.first then r.first else low + (r.step - (low - r.first) % r.step) % r.step
  first ≤ r.last && first ≤ high

namespace Member

/-- Whether a member makes a set one in which case may not count. -/
def hasTwin (mode : CaseMode) : Member → Bool
  | .code n => lastBasic < n || mode.hasTwin n
  | .range low high =>
    lastBasic < high ||
      match mode with
      | .exact => false
      | .ascii => (low ≤ 90 && 65 ≤ high) || (low ≤ 122 && 97 ≤ high)
      | .unicode => (lowerRuns ++ upperRuns).any (meetsRun low high)
  | .category _ _ => false

def holdsExactly (ascii : Bool) (c : Char) : Member → Bool
  | .code n => c.toNat = n
  | .range low high => low ≤ c.toNat && c.toNat ≤ high
  | .category k negated => k.test ascii c != negated

/-- Whether a character counts as a member, given its lower case. Beyond the basic plane a single character
counts in its own case only, and a range also has the characters whose upper case it has. -/
def holdsLower (mode : CaseMode) (ascii : Bool) (c : Char) : Member → Bool
  | .code n =>
    if lastBasic < n then c.toNat = n else (mode.group (mode.lower n)).contains c.toNat
  | .range low high =>
    ((mode.group c.toNat).flatMap mode.withLower).any (fun n => low ≤ n && n ≤ high && n ≤ lastBasic) ||
      (lastBasic < high &&
        [c.toNat, upperCode c.toNat].any fun n => low ≤ n && n ≤ high)
  | .category k negated => k.test ascii c != negated

end Member

inductive CharTest
  | any
  | anyInLine
  | code (negated : Bool) (n : Nat)
  /-- Case does not count for this code point, which is in lower case. -/
  | lowerCode (mode : CaseMode) (negated : Bool) (n : Nat)
  | set (ascii negated : Bool) (members : List Member)
  /-- Case does not count for the members. -/
  | lowerSet (mode : CaseMode) (ascii negated : Bool) (members : List Member)
  deriving DecidableEq

namespace CharTest

def holds (c : Char) : CharTest → Bool
  | .any => true
  | .anyInLine => c ≠ '\n'
  | .code negated n => (c.toNat = n : Bool) != negated
  | .lowerCode mode negated n => (mode.lower c.toNat = n : Bool) != negated
  | .set ascii negated members => members.any (·.holdsExactly ascii c) != negated
  | .lowerSet mode ascii negated members => members.any (·.holdsLower mode ascii (mode.lowerChar c)) != negated

/-- One character, or any but it. -/
def ofCode (mode : CaseMode) (negated : Bool) (n : Nat) : CharTest :=
  let low := mode.lower n
  if !mode.hasTwin n then .code negated n
  else match mode.group low with
    | [_] => .lowerCode mode negated low
    | twins => .lowerSet mode false negated (twins.map .code)

def ofMembers (mode : CaseMode) (ascii negated : Bool) (ms : List Member) : CharTest :=
  if mode ≠ .exact && ms.any (·.hasTwin mode) then .lowerSet mode ascii negated ms else .set ascii negated ms

/-- A test that is made before an alternative is tried. -/
def isPlain : CharTest → Bool
  | .code false _ | .set _ _ _ => true
  | _ => false

@[simp] theorem holds_code (n : Nat) (c : Char) : (CharTest.code false n).holds c = true ↔ c.toNat = n := by
  simp [holds]

end CharTest
end EntityGen.Pattern
