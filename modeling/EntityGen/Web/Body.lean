/-! The text of a body that does not say how it is encoded. -/

namespace EntityGen.Web

/-- How code points are written in bytes. -/
inductive Encoding
  | units8
  | units16 (bigEndian : Bool)
  | units32 (bigEndian : Bool)
  deriving DecidableEq

/-- The mark that a body may start with. -/
def byteOrderMark : List UInt8 := [0xEF, 0xBB, 0xBF]

/-- The first two characters are ones of ASCII, so their zero bytes tell the encoding. -/
def Encoding.ofStart? (start : List UInt8) : Option Encoding :=
  match start.map (· == 0) with
  | [false, false, false, false] => some .units8
  | [true, false, true, false] => some (.units16 true)
  | [false, true, false, true] => some (.units16 false)
  | [true, true, true, false] => some (.units32 true)
  | [false, true, true, true] => some (.units32 false)
  | _ => none

/-- The number that some bytes are, the highest one first. -/
def numberOfBytes (bytes : List UInt8) : Nat := bytes.foldl (fun n b => 256 * n + b.toNat) 0

/-- The numbers of `size` bytes each; `none` if bytes are left over. -/
def unitsOf? (size : Nat) (bigEndian : Bool) : (fuel : Nat) → List UInt8 → Option (List Nat)
  | _, [] => some []
  | 0, _ => none
  | fuel + 1, bytes =>
    let unit := bytes.take size
    if unit.length < size then none
    else (unitsOf? size bigEndian fuel (bytes.drop size)).map
      (numberOfBytes (if bigEndian then unit else unit.reverse) :: ·)

def charOfCode? (n : Nat) : Option Char :=
  if h : n.isValidChar then some (Char.ofNatAux n h) else none

/-- Two surrogates make up one character; one alone makes none. -/
def joinSurrogates? : List Nat → Option (List Char)
  | [] => some []
  | a :: rest =>
    if 0xD800 ≤ a && a ≤ 0xDBFF then
      match rest with
      | b :: rest =>
        if 0xDC00 ≤ b && b ≤ 0xDFFF then do
          return (← charOfCode? (0x10000 + (a - 0xD800) * 0x400 + (b - 0xDC00))) :: (← joinSurrogates? rest)
        else none
      | [] => none
    else do return (← charOfCode? a) :: (← joinSurrogates? rest)

def Encoding.decode? (bytes : List UInt8) : Encoding → Option String
  | .units8 => String.fromUTF8? ⟨bytes.toArray⟩
  | .units16 big => do return String.ofList (← joinSurrogates? (← unitsOf? 2 big bytes.length bytes))
  | .units32 big => do return String.ofList (← (← unitsOf? 4 big bytes.length bytes).mapM charOfCode?)

/-- The text of a body. A body of three bytes or fewer is taken for what it is. -/
def bodyText? (bytes : List UInt8) : Option String :=
  if bytes.length ≤ 3 then Encoding.decode? bytes .units8
  else if byteOrderMark.isPrefixOf bytes then Encoding.decode? (bytes.drop 3) .units8
  else (Encoding.ofStart? (bytes.take 4)).bind (·.decode? bytes)

end EntityGen.Web
