/-! Texts of any script as letters, digits and hyphens of ASCII: the characters of ASCII come first, and
behind a hyphen numbers say which other characters go where. -/

namespace EntityGen.Web.Punycode

/-- The smallest digit that ends a number, by its place. -/
def threshold (bias place : Nat) : Nat := min 26 (max 1 (36 * (place + 1) - bias))

def digit (n : Nat) : Char := Char.ofNat (if n < 26 then 'a'.toNat + n else '0'.toNat + (n - 26))

/-- The digits of a number from a place on, the lowest one first. -/
def digitsFrom (bias : Nat) : (fuel place : Nat) → Nat → List Char
  | 0, _, _ => []
  | fuel + 1, place, n =>
    let t := threshold bias place
    if n < t then [digit n]
    else digit (t + (n - t) % (36 - t)) :: digitsFrom bias fuel (place + 1) ((n - t) / (36 - t))

def digits (bias n : Nat) : List Char := digitsFrom bias (n + 1) 0 n

def scale : (fuel : Nat) → (delta steps : Nat) → Nat
  | 0, _, steps => 36 * steps
  | fuel + 1, delta, steps =>
    if 455 < delta then scale fuel (delta / 35) (steps + 1) else 36 * steps + 36 * delta / (delta + 38)

/-- The bias after a number, when `count` characters have their place. -/
def adapted (delta count : Nat) (isFirst : Bool) : Nat :=
  let d := if isFirst then delta / 700 else delta / 2
  scale (d + 1) (d + d / count) 0

structure State where
  delta : Nat := 0
  bias : Nat := 72
  /-- How many characters have their place, and how many had it at the start. -/
  placed : Nat
  basic : Nat
  written : List Char := []

/-- Goes through the text once to place all occurrences of a code point. -/
def place (code : Nat) (s : List Char) (st : State) : State :=
  s.foldl (fun st c =>
    if c.toNat < code then { st with delta := st.delta + 1 }
    else if c.toNat = code then
      { st with
        delta := 0
        bias := adapted st.delta (st.placed + 1) (st.placed = st.basic)
        placed := st.placed + 1
        written := st.written ++ digits st.bias st.delta }
    else st) st

/-- Places the code points of a list in ascending order, all of them from `next` on. -/
def placeAll (s : List Char) (next : Nat) (st : State) : List Nat → State
  | [] => st
  | code :: rest =>
    let st := place code s { st with delta := st.delta + (code - next) * (st.placed + 1) }
    placeAll s (code + 1) { st with delta := st.delta + 1 } rest

def isBasic (c : Char) : Bool := c.toNat < 128

def encode (s : List Char) : List Char :=
  let basic := s.filter isBasic
  let codes := (((s.filter (!isBasic ·)).map Char.toNat).mergeSort (decide <| · ≤ ·)).eraseDups
  let numbers := (placeAll s 128 { placed := basic.length, basic := basic.length } codes).written
  if basic.isEmpty then numbers else basic ++ '-' :: numbers

end EntityGen.Web.Punycode
