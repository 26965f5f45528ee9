/-! Texts as code points. An escape may name half of a surrogate pair, which is no character. -/

namespace EntityGen.Text

/-- A code point that is no character is read as the replacement character. -/
def charOf (n : Nat) : Char :=
  if h : n.isValidChar then Char.ofNatAux n h else '\ufffd'

def charsOf (codes : List Nat) : List Char := codes.map charOf

def codesOf (cs : List Char) : List Nat := cs.map Char.toNat

/-- Whether every code point is a character. -/
def areChars (codes : List Nat) : Bool := codes.all fun n => n.isValidChar

theorem charOf_toNat (c : Char) : charOf c.toNat = c := dif_pos c.valid

theorem charsOf_codesOf (cs : List Char) : charsOf (codesOf cs) = cs := by
  induction cs with
  | nil => rfl
  | cons c rest ih =>
    simp only [codesOf, charsOf, List.map_cons, charOf_toNat]
    congr 1

end EntityGen.Text
