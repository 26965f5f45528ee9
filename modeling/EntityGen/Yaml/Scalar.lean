import EntityGen.Number.Numeral
import EntityGen.Text.Codes
import EntityGen.Yaml.Cursor

/-! The texts of scalars: plain, between quotes, and in blocks of lines. -/

namespace EntityGen.Yaml

/-- A text that was read and what comes after it. -/
abbrev Reading := Except Fault (List Char × Cursor)

/-- A single line feed is read as a space; otherwise the line ends after the first one are kept. -/
def foldBreaks (first more : List Char) : List Char :=
  if first ≠ ['\n'] then first ++ more else if more.isEmpty then [' '] else more

/-! ## Plain -/

/-- Whether a plain scalar ends before a character. -/
def endsPlain (flow : Bool) (c : Char) (after : Option Char) : Bool :=
  isSpaceOrTab c || isBreak c ||
    (c = ':' && (endsWordOrTab after || (flow && after.any isFlowMark))) ||
    (flow && (c = '?' || isFlowMark c))

/-- The longest word that a plain scalar can go on with. -/
def plainWord (flow : Bool) : List Char → List Char
  | [] => []
  | c :: rest => if endsPlain flow c rest.head? then [] else c :: plainWord flow rest

/-- Line ends with the spaces between them; `none` where a separator of documents stands. -/
def plainBreaks : (fuel : Nat) → Cursor → Option (List Char) × Cursor
  | 0, c => (some [], c)
  | fuel + 1, c =>
    if c.atSeparator then (none, c)
    else
      let c := c.skipSpaces
      match c.lineBreak with
      | ([], _) => (some [], c)
      | (b, c) =>
        let (more, c) := plainBreaks fuel c
        (more.map (b ++ ·), c)

/-- What stands between two words of a plain scalar, which is nothing if no word can follow, and whether
a line ended. -/
def plainGap (c : Cursor) : List Char × Bool × Cursor :=
  let (spaces, c) := c.span isSpace
  match c.lineBreak with
  | ([], _) => (spaces, false, c)
  | (b, c) =>
    match plainBreaks (c.left.length + 1) c with
    | (some more, c) => (foldBreaks b more, true, c)
    | (none, c) => ([], true, c)

/-- Reads words and the gaps between them. The lines after the first must be indented unless brackets
are open. Also tells whether the last gap ended a line. -/
def plainText (flow : Bool) (indent : Int) :
    (fuel : Nat) → (gap : List Char) → (lineEnded : Bool) → Cursor → List Char × Bool × Cursor
  | 0, _, lineEnded, c => ([], lineEnded, c)
  | fuel + 1, gap, lineEnded, c =>
    match plainWord flow c.left with
    | [] => ([], lineEnded, c)
    | word =>
      let (next, ended, c) := plainGap (c.skip word.length)
      if next.isEmpty || c.peek = some '#' || (!flow && (c.column : Int) < indent) then
        (gap ++ word, ended, c)
      else
        let (more, ended, c) := plainText flow indent fuel next ended c
        (gap ++ word ++ more, ended, c)

/-! ## Between quotes -/

def namedEscape? : Char → Option Char
  | '0' => some '\x00'
  | 'a' => some '\x07'
  | 'b' => some '\x08'
  | 't' | '\t' => some '\t'
  | 'n' => some '\n'
  | 'v' => some '\x0b'
  | 'f' => some '\x0c'
  | 'r' => some '\r'
  | 'e' => some '\x1b'
  | ' ' => some ' '
  | '"' => some '"'
  | '\\' => some '\\'
  | '/' => some '/'
  | 'N' => some '\u0085'
  | '_' => some '\u00a0'
  | 'L' => some '\u2028'
  | 'P' => some '\u2029'
  | _ => none

/-- How many digits follow the letter of an escape. -/
def escapeWidth? : Char → Option Nat
  | 'x' => some 2
  | 'u' => some 4
  | 'U' => some 8
  | _ => none

/-- Half of a surrogate pair has a code point too. -/
def checkCode (n : Nat) : Except Fault Nat :=
  if n < 0x110000 then .ok n
  else if n < 0x80000000 then .error (.data .notScalar)
  else .error (.data .codeTooLarge)

/-- The empty lines after a line end. A separator of documents must not stand inside quotes. -/
def quotedBreaks : (fuel : Nat) → Cursor → Reading
  | 0, _ => .error .malformed
  | fuel + 1, c =>
    if c.atSeparator then .error .malformed
    else
      let c := c.skipWhile isSpaceOrTab
      match c.lineBreak with
      | ([], _) => .ok ([], c)
      | (b, c) => do
        let (more, c) ← quotedBreaks fuel c
        return (b ++ more, c)

/-- Blanks inside quotes. Those around line ends are dropped. -/
def quotedGap (c : Cursor) : Reading :=
  let (blanks, c) := c.span isSpaceOrTab
  match c.lineBreak with
  | ([], _) => .ok (blanks, c)
  | (b, c) => do
    let (more, c) ← quotedBreaks (c.left.length + 1) c
    return (foldBreaks b more, c)

/-- The code points of a text that was read and what comes after it. -/
abbrev CodeReading := Except Fault (List Nat × Cursor)

def Reading.codes (r : Reading) : CodeReading := r.map fun (s, c) => (Text.codesOf s, c)

/-- What a backslash and the characters after it stand for; the backslash was read. -/
def escaped (c : Cursor) : CodeReading :=
  match c.left with
  | [] => .error .malformed
  | x :: rest =>
    match namedEscape? x, escapeWidth? x with
    | some y, _ => .ok ([y.toNat], c.next)
    | none, some width =>
      let digits := rest.take width
      if digits.length < width then .error .malformed
      else match Number.natOfDigits? 16 digits with
        | some n => do return ([← checkCode n], c.next.skip width)
        | none => .error .malformed
    | none, none =>
      match c.lineBreak with
      | ([], _) => .error .malformed
      | (_, c) => Reading.codes (quotedBreaks (c.left.length + 1) c)

/-- Reads up to the quote that ends the text. Between single quotes two of them stand for one. -/
def quotedText (double : Bool) : (fuel : Nat) → Cursor → CodeReading
  | 0, _ => .error .malformed
  | fuel + 1, c =>
    let goOn (r : CodeReading) : CodeReading := do
      let (s, c) ← r
      let (more, c) ← quotedText double fuel c
      return (s ++ more, c)
    match c.left with
    | [] => .error .malformed
    | '\'' :: rest =>
      if double then goOn (.ok ([39], c.next))
      else if rest.head? = some '\'' then goOn (.ok ([39], c.skip 2))
      else .ok ([], c.next)
    | '"' :: _ => if double then .ok ([], c.next) else goOn (.ok ([34], c.next))
    | '\\' :: _ => if double then goOn (escaped c.next) else goOn (.ok ([92], c.next))
    | x :: _ =>
      if isSpaceOrTab x || isBreak x then goOn (Reading.codes (quotedGap c))
      else goOn (.ok ([x.toNat], c.next))

/-! ## Blocks of lines -/

/-- What becomes of the line ends after the last line of a block: the first is kept, none is, or all
are. -/
inductive Chomping
  | clip
  | strip
  | keep
  deriving DecidableEq

def chompingOf? : Option Char → Option Chomping
  | some '+' => some .keep
  | some '-' => some .strip
  | _ => none

/-- A digit other than zero. -/
def increment? : Option Char → Except Fault (Option Nat)
  | some c =>
    if c = '0' then .error .malformed
    else .ok (if c.isDigit then some (c.toNat - '0'.toNat) else none)
  | none => .ok none

/-- The chomping and the indentation that the head of a block asks for, in either order. -/
def blockHead (c : Cursor) : Except Fault (Chomping × Option Nat × Cursor) := do
  let (chomping, width, c) ← match chompingOf? c.peek with
    | some chomping => do
      match ← increment? c.peekNext with
      | some n => pure (chomping, some n, c.skip 2)
      | none => pure (chomping, none, c.next)
    | none => do
      match ← increment? c.peek with
      | some n =>
        match chompingOf? c.peekNext with
        | some chomping => pure (chomping, some n, c.skip 2)
        | none => pure (Chomping.clip, some n, c.next)
      | none => pure (Chomping.clip, none, c)
  if endsWord c.peek then return (chomping, width, c) else throw .malformed

/-- The empty lines before a block, and the widest indentation up to its first line. -/
def blockIndent : (fuel : Nat) → (widest : Nat) → Cursor → List Char × Nat × Cursor
  | 0, widest, c => ([], widest, c)
  | fuel + 1, widest, c =>
    let c := c.skipSpaces
    let widest := max widest c.column
    match c.lineBreak with
    | ([], _) => ([], widest, c)
    | (b, c) =>
      let (more, widest, c) := blockIndent fuel widest c
      (b ++ more, widest, c)

/-- Spaces up to a column. -/
def skipToColumn (column : Int) (c : Cursor) : Cursor :=
  c.skip (min (c.left.takeWhile isSpace).length (column - c.column).toNat)

/-- Empty lines, and the indentation of the line after them. -/
def blockBreaks (indent : Int) : (fuel : Nat) → Cursor → List Char × Cursor
  | 0, c => ([], c)
  | fuel + 1, c =>
    let c := skipToColumn indent c
    match c.lineBreak with
    | ([], _) => ([], c)
    | (b, c) =>
      let (more, c) := blockBreaks indent fuel c
      (b ++ more, c)

/-- Whether a line of the block starts here. -/
def atBlockLine (indent : Int) (c : Cursor) : Bool := (c.column : Int) = indent && c.peek.isSome

/-- What stands between two lines of a block. In a folded one a line feed between lines that start with
no blank is read as a space. -/
def blockGap (folded : Bool) (first second : Option Char) (lineEnd more : List Char) : List Char :=
  if folded && lineEnd = ['\n'] && !first.any isSpaceOrTab && !second.any isSpaceOrTab then
    if more.isEmpty then [' '] else more
  else lineEnd ++ more

def chomp : Chomping → (lineEnd more : List Char) → List Char
  | .clip, lineEnd, _ => lineEnd
  | .strip, _, _ => []
  | .keep, lineEnd, more => lineEnd ++ more

/-- The lines of a block from one of them on. -/
def blockLines (folded : Bool) (chomping : Chomping) (indent : Int) :
    (fuel : Nat) → Cursor → List Char × Cursor
  | 0, c => ([], c)
  | fuel + 1, c =>
    let first := c.peek
    let (line, c) := c.span (!isBreak ·)
    let (lineEnd, c) := c.lineBreak
    let (more, c) := blockBreaks indent (c.left.length + 1) c
    if atBlockLine indent c then
      let (others, d) := blockLines folded chomping indent fuel c
      (line ++ blockGap folded first c.peek lineEnd more ++ others, d)
    else (line ++ chomp chomping lineEnd more, c)

/-- A block inside lines with an indentation; the mark that starts it was read. -/
def blockText (folded : Bool) (outer : Int) (c : Cursor) : Reading := do
  let (chomping, width, c) ← blockHead c
  let c ← c.restOfLine
  let least := max (outer + 1) 1
  let (breaks, indent, c) := match width with
    | some n =>
      let indent := least + n - 1
      let (breaks, c) := blockBreaks indent (c.left.length + 1) c
      (breaks, indent, c)
    | none =>
      let (breaks, widest, c) := blockIndent (c.left.length + 1) 0 c
      (breaks, max least widest, c)
  if atBlockLine indent c then
    let (lines, c) := blockLines folded chomping indent (c.left.length + 1) c
    return (breaks ++ lines, c)
  else return (chomp chomping [] breaks, c)

end EntityGen.Yaml
