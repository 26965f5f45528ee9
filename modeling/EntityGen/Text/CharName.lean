import EntityGen.Text.CharName.Aliases
import EntityGen.Text.CharName.Ancient
import EntityGen.Text.CharName.Asian
import EntityGen.Text.CharName.European
import EntityGen.Text.CharName.Further
import EntityGen.Text.CharName.Hieroglyphs
import EntityGen.Text.CharName.Notation
import EntityGen.Text.CharName.Pictures
import EntityGen.Text.CharName.Symbols

/-! Code points by the names of their characters. -/

namespace EntityGen.Text.CharName

def hexOf? (digits : List Char) : Option Nat :=
  digits.foldlM (fun n c =>
    if '0' ≤ c && c ≤ '9' then some (16 * n + (c.toNat - 48))
    else if 'A' ≤ c && c ≤ 'F' then some (16 * n + (c.toNat - 55))
    else none) 0

/-- A place in a table: the name read so far, backwards, and the code point after its own. -/
structure Place where
  reversed : List Char
  length : Nat
  next : Nat

def Place.start : Place := ⟨[], 0, 0⟩

def Place.push (p : Place) (c : Char) : Place := ⟨c :: p.reversed, p.length + 1, p.next⟩

/-- The next name keeps the first `shared` characters of this one. -/
def Place.share (p : Place) (shared : Nat) : Place :=
  ⟨p.reversed.drop (p.length - shared), shared, p.next + 1⟩

def isStart (c : Char) : Bool := 'a' ≤ c && c ≤ 'z'

/-- In a table a pair of small letters starts a name and says how much it shares with the one before
it; the sign `@` with five digits sets the code point of the name that follows, and without it the
code point is the next one. -/
def find? (backwards : List Char) : Place → List Char → Option Nat
  | p, [] => if p.reversed = backwards then some (p.next - 1) else none
  | p, '@' :: a :: b :: c :: d :: e :: rest =>
      if p.reversed = backwards then some (p.next - 1)
      else find? backwards ⟨p.reversed, p.length, (hexOf? [a, b, c, d, e]).getD 0⟩ rest
  | p, x :: y :: rest =>
      if isStart x then
        if p.reversed = backwards then some (p.next - 1)
        else find? backwards (p.share (26 * (x.toNat - 97) + (y.toNat - 97))) rest
      else find? backwards (p.push x) (y :: rest)
  | p, [x] => if x :: p.reversed = backwards then some (p.next - 1) else none

def tables : List (List String) := [europeanNames, asianNames, symbolsNames, furtherNames,
  ancientNames, hieroglyphsNames, notationNames, picturesNames, aliasNames]

def ofTables? (name : List Char) : Option Nat :=
  tables.findSome? fun lines => find? name.reverse .start (lines.flatMap String.toList)

/-- The first consonants of syllables, in order. -/
def initials : List String := ["G", "GG", "N", "D", "DD", "R", "M", "B", "BB", "S", "SS", "", "J",
  "JJ", "C", "K", "T", "P", "H"]

def vowels : List String := ["A", "AE", "YA", "YAE", "EO", "E", "YEO", "YE", "O", "WA", "WAE", "OE",
  "YO", "U", "WEO", "WE", "WI", "YU", "EU", "YI", "I"]

def finals : List String := ["", "G", "GG", "GS", "N", "NJ", "NH", "D", "L", "LG", "LM", "LB", "LS",
  "LT", "LP", "LH", "M", "B", "BS", "S", "SS", "NG", "J", "C", "K", "T", "P", "H"]

/-- The longest part that the text starts with: its number and what follows it. -/
def longest? (parts : List String) (cs : List Char) : Option (Nat × List Char) :=
  (parts.zipIdx.filter fun p => p.1.toList.isPrefixOf cs).foldl (fun best p =>
    match best with
    | some (_, rest) =>
        if rest.length + p.1.length > cs.length then some (p.2, cs.drop p.1.length) else best
    | none => some (p.2, cs.drop p.1.length)) none

/-- A syllable is named by its sounds, each taken as long as it can be. -/
def syllable? (cs : List Char) : Option Nat := do
  let (l, cs) ← longest? initials cs
  let (v, cs) ← longest? vowels cs
  let (t, cs) ← longest? finals cs
  if cs.isEmpty then some (0xac00 + (l * 21 + v) * 28 + t) else none

def unifiedIdeographs : List (Nat × Nat) := [(0x3400, 0x4dbf), (0x4e00, 0x9fff), (0x20000, 0x2a6df),
  (0x2a700, 0x2b738), (0x2b740, 0x2b81d), (0x2b820, 0x2cea1), (0x2ceb0, 0x2ebe0), (0x30000, 0x3134a)]

/-- A unified ideograph is named by its code point in four or five digits. -/
def ideograph? (cs : List Char) : Option Nat := do
  let n ← hexOf? cs
  if (cs.length == 4 || cs.length == 5) && unifiedIdeographs.any (fun r => r.1 ≤ n && n ≤ r.2) then
    some n
  else none

end CharName

/-- Letters of either case make the names in the tables; names made by rule are upper case. -/
def codeOfName? (name : List Char) : Option Nat :=
  let syllable := "HANGUL SYLLABLE ".toList
  let ideograph := "CJK UNIFIED IDEOGRAPH-".toList
  if name.isEmpty then none
  else if syllable.isPrefixOf name then CharName.syllable? (name.drop syllable.length)
  else if ideograph.isPrefixOf name then CharName.ideograph? (name.drop ideograph.length)
  else CharName.ofTables? (name.map Char.toUpper)

end EntityGen.Text
