import EntityGen.Value

/-! The order in which a set lists numbers: by their slots in a table that has room for more than twice as
many of them. -/

namespace EntityGen.Value

/-- Numbers are put into slots by their remainders for this prime. -/
def slotPrime : Nat := Nat.pow 2 61 - 1

/-- The power of two with an exponent of any sign is the one with a remainder of the exponent. -/
def slotRemainder (negative : Bool) (m : Nat) (e : Int) : Int :=
  let r : Int := m * Nat.pow 2 (e % 61).toNat % slotPrime
  if negative then (if r = 1 then -2 else -r) else r

/-- The remainder of a number as a word of 64 bits. Equal numbers have the same. -/
def slotWord? (v : Value) : Option Nat :=
  let word (r : Int) : Option Nat := some (r % (Nat.pow 2 64)).toNat
  match v with
  | .bool b => word (if b then 1 else 0)
  | .int n => word (slotRemainder (n < 0) n.natAbs 0)
  | .double (.finite s m e) => word (slotRemainder s m e)
  | .double (.infinite s) => word (if s then -314159 else 314159)
  | _ => none

/-- The slots of a table for so many numbers: a power of two. -/
def slotCount (n : Nat) : Nat := if n < 5 then 8 else Nat.pow 2 (Nat.log2 (2 * n) + 1)

/-- The first free slot of a row of ten, if the table has all of them, and else the first slot if it is
free. -/
def freeSlot? (slots : Array (Option Value)) (i : Nat) : Option Nat :=
  let row := if i + 9 < slots.size then List.range 10 else [0]
  (row.map (i + ·)).find? fun j => (slots[j]?.getD none).isNone

/-- Looks for a slot from place to place; the word leads to the next place as long as it lasts. -/
def findSlot (slots : Array (Option Value)) : (fuel : Nat) → (i word : Nat) → Nat
  | 0, i, _ => i
  | fuel + 1, i, word =>
    match freeSlot? slots i with
    | some j => j
    | none =>
      let word := word / 32
      findSlot slots fuel ((i * 5 + 1 + word) % slots.size) word

/-- Items that are not all numbers stay as they are. -/
def listed (items : List Value) : List Value :=
  match items.mapM slotWord? with
  | none => items
  | some words =>
    let slots : Array (Option Value) := Array.replicate (slotCount items.length) none
    let filled := (items.zip words).foldl (fun slots (v, word) =>
      slots.setIfInBounds (findSlot slots (slots.size + 13) (word % slots.size) word) (some v)) slots
    filled.toList.filterMap id

end EntityGen.Value
