import EntityGen.Number.Rounding

/-! Binary numbers with a mantissa of 53 bits. -/

namespace EntityGen.Number

/-- A finite number is `mantissa * 2 ^ exponent`. The mantissa is below `2 ^ 53`, and it is at least
`2 ^ 52` unless the exponent is the least one, `-1074`. -/
inductive Double
  | nan
  | infinite (negative : Bool)
  | finite (negative : Bool) (mantissa : Nat) (exponent : Int)
  deriving DecidableEq, Inhabited

namespace Double

def leastExponent : Int := -1074

def greatestExponent : Int := 971

def zero : Double := .finite false 0 leastExponent

/-- `num / den * 2 ^ (-e)` as a quotient. -/
def scaled (num den : Nat) (e : Int) : Nat × Nat :=
  if 0 ≤ e then (num, den * Nat.pow 2 e.toNat) else (num * Nat.pow 2 (-e).toNat, den)

/-- The exponent that leaves 53 bits before the point, unless it is too small. -/
def exponentFor (num den : Nat) : Int :=
  let guess := (Nat.log2 num : Int) - Nat.log2 den - 52
  let (n, d) := scaled num den guess
  max leastExponent (if n < d * Nat.pow 2 52 then guess - 1 else guess)

/-- The double nearest to `num / den`; ties go to the even mantissa. -/
def ofRatio (negative : Bool) (num den : Nat) : Double :=
  if num = 0 then .finite negative 0 leastExponent
  else
    let e := exponentFor num den
    let (n, d) := scaled num den e
    let m := roundDiv n d
    let (m, e) := if m = Nat.pow 2 53 then (Nat.pow 2 52, e + 1) else (m, e)
    if greatestExponent < e then .infinite negative else .finite negative m e

def ofNat (n : Nat) : Double := ofRatio false n 1

def ofInt (n : Int) : Double := ofRatio (n < 0) n.natAbs 1

/-- The double nearest to `digits * 10 ^ exponent`. Far outside the range of doubles the power of ten
is not computed. -/
def ofDecimal (negative : Bool) (digits : Nat) (exponent : Int) : Double :=
  let size := (Nat.log2 digits : Int)
  if digits = 0 then .finite negative 0 leastExponent
  else if 400 < exponent then .infinite negative
  else if exponent < 0 && size + 3 * exponent < -1200 then .finite negative 0 leastExponent
  else if 0 ≤ exponent then ofRatio negative (digits * Nat.pow 10 exponent.toNat) 1
  else ofRatio negative digits (Nat.pow 10 (-exponent).toNat)

/-- The size of a finite number as a quotient. -/
def ratio (mantissa : Nat) (exponent : Int) : Nat × Nat :=
  if 0 ≤ exponent then (mantissa * Nat.pow 2 exponent.toNat, 1) else (mantissa, Nat.pow 2 (-exponent).toNat)

/-- `2 ^ 10` times less. -/
def shrink : Double → Double
  | .finite s m e => let (n, d) := ratio m e; ofRatio s n (d * 1024)
  | x => x

/-- Below the natural number `n`; false of what is no number. -/
def ltNat : Double → Nat → Bool
  | .nan, _ => false
  | .infinite s, _ => s
  | .finite s m e, n => let (num, den) := ratio m e; num < n * den || (s && m ≠ 0) || (s && 0 < n)

def isZero : Double → Bool
  | .finite _ 0 _ => true
  | _ => false

def neg : Double → Double
  | .nan => .nan
  | .infinite s => .infinite (!s)
  | .finite s m e => .finite (!s) m e

/-- The sum, rounded once. -/
def add : Double → Double → Double
  | .nan, _ | _, .nan => .nan
  | .infinite s, .infinite t => if s = t then .infinite s else .nan
  | .infinite s, _ | _, .infinite s => .infinite s
  | .finite s m e, .finite t n f =>
    let (a, b) := ratio m e
    let (c, d) := ratio n f
    let signed (s : Bool) (k : Nat) : Int := if s then -(k : Int) else k
    let num := signed s (a * d) + signed t (c * b)
    if num = 0 then .finite (s && t) 0 leastExponent else ofRatio (num < 0) num.natAbs (b * d)

/-- The product, rounded once. -/
def mul : Double → Double → Double
  | .nan, _ | _, .nan => .nan
  | .infinite s, .infinite t => .infinite (s != t)
  | .infinite s, .finite t m _ | .finite t m _, .infinite s => if m = 0 then .nan else .infinite (s != t)
  | .finite s m e, .finite t n f =>
    let (a, b) := ratio m e
    let (c, d) := ratio n f
    ofRatio (s != t) (a * c) (b * d)

/-- The integer that the number is equal to, if there is one. -/
def toInt? : Double → Option Int
  | .finite s m e =>
    let (a, b) := ratio m e
    if a % b = 0 then some (if s then -((a / b : Nat) : Int) else ((a / b : Nat) : Int)) else none
  | _ => none

end Double
end EntityGen.Number
