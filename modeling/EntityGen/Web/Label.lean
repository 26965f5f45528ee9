import EntityGen.Text.Combining
import EntityGen.Text.Joining
import EntityGen.Text.Script
import EntityGen.Web.LabelChar
import EntityGen.Web.Punycode

/-! The labels of domain names in any script. -/

namespace EntityGen.Web.Label

open Text

/-- The class of the sign that takes the vowel from a letter. -/
def viramaClass : Nat := 9

/-- Whether a letter of a class comes next, be it behind marks. -/
def meets (p : Char → Bool) (s : List Char) : Bool := (s.find? (!isTransparent ·)).any p

/-- Whether a character that needs its neighbours has them: `before`, nearest character first, and
`after`. -/
def fitsContext (before : List Char) (c : Char) (after : List Char) : Bool :=
  let n := c.toNat
  let followsVirama := before.head?.any fun d => combiningClass d = viramaClass
  if n = 0x200C then followsVirama || (meets joinsForward before && meets joinsBackward after)
  else if n = 0x200D then followsVirama
  else if n = 0xB7 then before.head? = some 'l' && after.head? = some 'l'
  else if n = 0x375 then after.head?.any isGreek
  else if n = 0x5F3 || n = 0x5F4 then before.head?.any isHebrew
  else if n = 0x30FB then (before ++ after).any fun d => d.toNat ≠ 0x30FB && isJapanese d
  else if 0x660 ≤ n && n ≤ 0x669 then !(before ++ after).any fun d => 0x6F0 ≤ d.toNat && d.toNat ≤ 0x6F9
  else if 0x6F0 ≤ n && n ≤ 0x6F9 then !(before ++ after).any fun d => 0x660 ≤ d.toNat && d.toNat ≤ 0x669
  else false

/-- Whether every character is allowed, `before` being in front of them. -/
def areAllowed (before : List Char) : List Char → Bool
  | [] => true
  | c :: rest => (isLabelChar c || fitsContext before c rest) && areAllowed (c :: before) rest

/-- No hyphen stands at an end, nor do two of them stand behind the second character. -/
def hyphensFit (s : List Char) : Bool :=
  s.head? ≠ some '-' && s.getLast? ≠ some '-' && (s.drop 2).take 2 ≠ ['-', '-']

/-- A label with a letter or digit from the right starts with such a letter, has none from the left nor
two kinds of digits, and ends with a letter or a digit, be it with marks behind it. -/
def directionsFit (ds : List Direction) : Bool :=
  let isRight (d : Direction) : Bool := d = .right || d = .arabic
  if ds.any fun d => isRight d || d = .arabicNumber then
    ds.head?.any isRight && !ds.contains .left && !(ds.contains .number && ds.contains .arabicNumber) &&
      (ds.reverse.dropWhile (· = .mark)).head? ≠ some .neutral
  else true

/-- The most characters of a label as it is looked up. -/
def lengthLimit : Nat := 63

/-- A label of ASCII alone is looked up as it is, any other one in code and marked as such. -/
def encoded (s : List Char) : List Char :=
  if s.all Punycode.isBasic then s else "xn--".toList ++ Punycode.encode s

/-- Whether a label, in lower case, can be looked up. -/
def isValid (s : List Char) : Bool :=
  !s.isEmpty && normalized s = s && hyphensFit s && !s.head?.any isMark && areAllowed [] s &&
    directionsFit (s.map Direction.ofChar) && (encoded s).length ≤ lengthLimit

end EntityGen.Web.Label
