import EntityGen.Failure
import EntityGen.Number.Fixed

/-! Sizes as people read them. -/

namespace EntityGen

open Number

/-- A number of bytes, counted or measured. -/
inductive FileSize
  | count (n : Int)
  | measure (x : Double)
  deriving DecidableEq

namespace FileSize

/-- The units, each `2 ^ 10` times the one before; whatever is too large for all of them is given in
the last one. -/
def units : List String := ["B", "KB", "MB", "GB"]

def lastUnit : String := "TB"

def quantity (x : Double) (u : String) : String := x.fixed 1 ++ " " ++ u

/-- The size in the first unit in which it stays below 1024. The unit is chosen before rounding. -/
def inUnits : List String → Double → String
  | [], x => quantity x lastUnit
  | u :: rest, x => if x.ltNat 1024 then quantity x u else inUnits rest x.shrink

/-- A double, unless it is beyond all of them. -/
def finite? (x : Double) : Except Failure Double :=
  match x with
  | .infinite _ => .error (.data .numberTooLarge)
  | x => .ok x

/-- A counted size leaves the integers with the first division. -/
def text : FileSize → Except Failure String
  | .count n =>
    if n < 1024 then return quantity (← finite? (Double.ofInt n)) "B"
    else return inUnits (units.drop 1) (← finite? (Double.ofRatio false n.toNat 1024))
  | .measure x => .ok (inUnits units x)

end FileSize

/-- A size that some file has. -/
def sizeText (bytes : Nat) : String :=
  match FileSize.text (.count bytes) with
  | .ok s => s
  | .error f => f.message

end EntityGen
