/-! Bytes written with sixty-four characters. -/

namespace EntityGen.Text

/-- The six bits that a character stands for. -/
def sextet? (c : Char) : Option Nat :=
  if c.isUpper then some (c.toNat - 'A'.toNat)
  else if c.isLower then some (c.toNat - 'a'.toNat + 26)
  else if c.isDigit then some (c.toNat - '0'.toNat + 52)
  else if c = '+' then some 62
  else if c = '/' then some 63
  else none

/-- Reads on after `held` characters of a group of four, of which `bits` is not written yet. Foreign
characters are passed over. The padding that completes a group ends the text. -/
def decodeGroups (held bits pads : Nat) : List Char → Option (List UInt8)
  | [] => if held = 0 then some [] else none
  | '=' :: rest =>
    if held < 2 then decodeGroups held bits pads rest
    else if 4 ≤ held + pads + 1 then some []
    else decodeGroups held bits (pads + 1) rest
  | c :: rest =>
    match sextet? c with
    | none => decodeGroups held bits pads rest
    | some s =>
      match held with
      | 0 => decodeGroups 1 s 0 rest
      | 1 => (decodeGroups 2 (s % 16) 0 rest).map (UInt8.ofNat (bits * 4 + s / 16) :: ·)
      | 2 => (decodeGroups 3 (s % 4) 0 rest).map (UInt8.ofNat (bits * 16 + s / 4) :: ·)
      | _ => (decodeGroups 0 0 0 rest).map (UInt8.ofNat (bits * 64 + s) :: ·)

/-- The bytes of a text; `none` if its last group is not complete. -/
def decodeBase64 (s : List Char) : Option (List UInt8) := decodeGroups 0 0 0 s

end EntityGen.Text
