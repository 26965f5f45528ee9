import EntityGen.Number.Double

/-! The shortest decimal text of a double. -/

namespace EntityGen.Number

/-- The reals that round to a finite double other than zero, over a common denominator. -/
structure RoundingInterval where
  lower : Nat
  value : Nat
  upper : Nat
  den : Nat
  /-- Whether the two ends round to the double too. -/
  closed : Bool

/-- The number below a power of two is half as far away as the one above. -/
def roundingInterval (m : Nat) (e : Int) : RoundingInterval :=
  let (num, den) := Double.ratio (4 * m) e
  let unit := num / (4 * m)
  let below := if m = Nat.pow 2 52 && Double.leastExponent < e then unit else 2 * unit
  ⟨num - below, num, num + 2 * unit, 4 * den, m % 2 = 0⟩

def RoundingInterval.holds (i : RoundingInterval) (num den : Nat) : Bool :=
  if i.closed then i.lower * den ≤ num * i.den && num * i.den ≤ i.upper * den
  else i.lower * den < num * i.den && num * i.den < i.upper * den

/-- `10 ^ k` as a quotient. -/
def powerOfTen (k : Int) : Nat × Nat :=
  if 0 ≤ k then (Nat.pow 10 k.toNat, 1) else (1, Nat.pow 10 (-k).toNat)

/-- The greatest `k` with `10 ^ k ≤ num / den`, searched downwards from `start`. -/
def decimalExponent (num den : Nat) : (fuel : Nat) → (start : Int) → Int
  | 0, k => k
  | fuel + 1, k =>
    let (a, b) := powerOfTen k
    if a * den ≤ num * b then k else decimalExponent num den fuel (k - 1)

/-- The multiple of `10 ^ k` nearest to the double, if a multiple rounds to it. -/
def onGrid (i : RoundingInterval) (k : Int) : Option Nat :=
  let (a, b) := powerOfTen k
  let num := i.value * b
  let den := i.den * a
  let down := num / den
  let hits (d : Nat) : Bool := i.holds (d * a) b
  match hits down, hits (down + 1) with
  | true, true => some (roundDiv num den)
  | true, false => some down
  | false, true => some (down + 1)
  | false, false => none

/-- Tries `10 ^ k`, `10 ^ (k - 1)` and so on. -/
def firstGrid (i : RoundingInterval) : (tries : Nat) → Int → Nat × Int
  | 0, k => (i.value / i.den, k)
  | tries + 1, k =>
    match onGrid i k with
    | some d => (d, k)
    | none => firstGrid i tries (k - 1)

/-- The fewest digits `d` and the `k` for which `d * 10 ^ k` reads back as the double. -/
def shortestDigits (m : Nat) (e : Int) : Nat × Int :=
  let i := roundingInterval m e
  let guess := ((Nat.log2 i.value : Int) - Nat.log2 i.den + 1) * 30103 / 100000 + 1
  firstGrid i 20 (decimalExponent i.value i.den 8 guess + 1)

/-- How a finite number is laid out. -/
structure Layout where
  /-- Positional notation is used while the point stands after this many digits or fewer, … -/
  most : Int
  /-- … and after more than this many. -/
  least : Int
  /-- The exponent has at least this many digits. -/
  exponentWidth : Nat

def padded (width : Nat) (digits : String) : String :=
  String.ofList (List.replicate (width - digits.length) '0') ++ digits

/-- The digits `d * 10 ^ k` without trailing zeros of `d`. -/
def dropZeros : (fuel : Nat) → Nat → Int → Nat × Int
  | 0, d, k => (d, k)
  | fuel + 1, d, k => if d ≠ 0 && d % 10 = 0 then dropZeros fuel (d / 10) (k + 1) else (d, k)

def Layout.text (l : Layout) (d : Nat) (k : Int) : String :=
  let (d, k) := dropZeros 400 d k
  let digits := toString d
  let point := (digits.length : Int) + k
  if l.least < point && point ≤ l.most then
    if 0 ≤ k then digits ++ String.ofList (List.replicate k.toNat '0') ++ ".0"
    else if 0 < point then
      let cs := digits.toList
      String.ofList (cs.take point.toNat) ++ "." ++ String.ofList (cs.drop point.toNat)
    else "0." ++ String.ofList (List.replicate (-point).toNat '0') ++ digits
  else
    let exponent := point - 1
    let sign := if exponent < 0 then "-" else "+"
    let fraction := String.ofList (digits.toList.drop 1)
    String.ofList (digits.toList.take 1) ++ (if fraction.isEmpty then "" else "." ++ fraction) ++ "e" ++
      sign ++ padded l.exponentWidth (toString exponent.natAbs)

/-- Positional from a ten-thousandth up to sixteen digits, with two digits of exponent elsewhere. -/
def plainLayout : Layout := ⟨16, -4, 2⟩

/-- The shortest text that reads back, with a point or an exponent in it. -/
def Double.shortest : Double → String
  | .nan => "nan"
  | .infinite s => if s then "-inf" else "inf"
  | .finite s m e =>
    (if s then "-" else "") ++
      if m = 0 then "0.0" else let (d, k) := shortestDigits m e; plainLayout.text d k

end EntityGen.Number
