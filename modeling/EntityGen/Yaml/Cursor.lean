import EntityGen.Failure

/-! A place in a document. -/

namespace EntityGen.Yaml

/-- Why a document has no value. -/
inductive Fault
  /-- It breaks a rule of the format. -/
  | malformed
  /-- It keeps the rules, but something that it says has no value. -/
  | data (fault : DataFault)
  deriving DecidableEq, Inhabited

/-- The characters that end a line. -/
def isBreak (c : Char) : Bool := c = '\n' || c.toNat = 0x85 || c.toNat = 0x2028 || c.toNat = 0x2029

def isSpace (c : Char) : Bool := c = ' '

def isSpaceOrTab (c : Char) : Bool := c = ' ' || c = '\t'

/-- Letters, digits and two marks make names. -/
def isNameChar (c : Char) : Bool := c.isAlphanum || c = '-' || c = '_'

/-- Marks with a meaning inside brackets and braces. -/
def isFlowMark (c : Char) : Bool := [',', '[', ']', '{', '}'].contains c

/-- Whether a line or a word ends before what follows. -/
def endsLine : Option Char → Bool
  | none => true
  | some c => isBreak c

def endsWord : Option Char → Bool
  | none => true
  | some c => isSpace c || isBreak c

def endsWordOrTab : Option Char → Bool
  | none => true
  | some c => isSpaceOrTab c || isBreak c

/-- The characters that a document may have. -/
def isAllowed (c : Char) : Bool :=
  let n := c.toNat
  n = 0x9 || n = 0xA || n = 0xD || (0x20 ≤ n && n ≤ 0x7E) || n = 0x85 || (0xA0 ≤ n && n ≤ 0xD7FF) ||
    (0xE000 ≤ n && n ≤ 0xFFFD) || 0x10000 ≤ n

/-- What is left to read, and how much was read before it. -/
structure Cursor where
  left : List Char
  index : Nat := 0
  line : Nat := 0
  column : Nat := 0

namespace Cursor

def peek (c : Cursor) : Option Char := c.left.head?

def peekNext (c : Cursor) : Option Char := c.left.tail.head?

/-- A byte order mark takes no room in its line. -/
def next (c : Cursor) : Cursor :=
  match c.left with
  | [] => c
  | x :: rest =>
    if isBreak x then ⟨rest, c.index + 1, c.line + 1, 0⟩
    else ⟨rest, c.index + 1, c.line, if x.toNat = 0xFEFF then c.column else c.column + 1⟩

def skip (c : Cursor) : Nat → Cursor
  | 0 => c
  | n + 1 => c.next.skip n

/-- The longest run of characters of a class, and what comes after it. -/
def span (p : Char → Bool) (c : Cursor) : List Char × Cursor :=
  let run := c.left.takeWhile p
  (run, c.skip run.length)

def skipWhile (p : Char → Bool) (c : Cursor) : Cursor := (c.span p).2

def skipSpaces (c : Cursor) : Cursor := c.skipWhile isSpace

/-- A comment ends with its line. -/
def skipComment (c : Cursor) : Cursor :=
  if c.peek = some '#' then c.skipWhile (!isBreak ·) else c

/-- Reads a line end, if there is one. Most line ends are read as a line feed. -/
def lineBreak (c : Cursor) : List Char × Cursor :=
  match c.peek with
  | some x =>
    if isBreak x then ([if x.toNat = 0x2028 || x.toNat = 0x2029 then x else '\n'], c.next) else ([], c)
  | none => ([], c)

/-- Spaces and a comment, and then the end of the line. -/
def restOfLine (c : Cursor) : Except Fault Cursor :=
  let c := c.skipSpaces.skipComment
  if endsLine c.peek then .ok c.lineBreak.2 else .error .malformed

/-- Whether three dashes or dots stand here as a word. -/
def atSeparator (c : Cursor) : Bool :=
  match c.left with
  | '-' :: '-' :: '-' :: rest | '.' :: '.' :: '.' :: rest => endsWordOrTab rest.head?
  | _ => false

end Cursor
end EntityGen.Yaml
