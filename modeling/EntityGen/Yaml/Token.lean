import EntityGen.Yaml.Scalar

/-! The tokens of a document. Where blocks start and end follows from the columns of tokens, and what
is a key is known only at the colon behind it. -/

namespace EntityGen.Yaml

inductive Directive
  | version (major : Nat)
  /-- A handle stands for the start of a tag. -/
  | handle (name start : String)
  | other
  deriving DecidableEq

inductive Token
  | directive (d : Directive)
  | documentStart
  | documentEnd
  | blockList
  | blockMap
  | blockEnd
  | flowList
  | flowListEnd
  | flowMap
  | flowMapEnd
  | entry
  | comma
  | key
  | value
  | alias (name : String)
  | anchor (name : String)
  | tag (handle : Option String) (name : String)
  | scalar (plain : Bool) (codes : List Nat)
  deriving DecidableEq

/-- A token that may turn out to be a key, or to start one. -/
structure PendingKey where
  number : Nat
  index : Nat
  line : Nat
  column : Nat
  /-- Nothing but a key can stand there. -/
  required : Bool

/-- The most characters from the start of a key to its colon. -/
def keyLimit : Nat := 1024

def PendingKey.isStale (k : PendingKey) (c : Cursor) : Bool :=
  k.line ≠ c.line || k.index + keyLimit < c.index

structure Lexer where
  cursor : Cursor
  /-- The column of the innermost block, and those of the blocks around it. -/
  indent : Int := -1
  outerIndents : List Int := []
  /-- Whether a key may start here. -/
  mayKey : Bool := true
  /-- The key that may end here, and those outside of the innermost brackets. -/
  key : Option PendingKey := none
  outerKeys : List (Option PendingKey) := []
  /-- The tokens so far, the latest one first. -/
  tokens : List Token := []
  count : Nat := 0

namespace Lexer

def inFlow (x : Lexer) : Bool := !x.outerKeys.isEmpty

def peek (x : Lexer) : Option Char := x.cursor.peek

def column (x : Lexer) : Int := x.cursor.column

def push (t : Token) (x : Lexer) : Lexer := { x with tokens := t :: x.tokens, count := x.count + 1 }

/-- Puts a token in front of the one with a number. -/
def insert (number : Nat) (t : Token) (x : Lexer) : Lexer :=
  let later := x.count - number
  { x with tokens := x.tokens.take later ++ t :: x.tokens.drop later, count := x.count + 1 }

def skip (n : Nat) (x : Lexer) : Lexer := { x with cursor := x.cursor.skip n }

def withMayKey (b : Bool) (x : Lexer) : Lexer := { x with mayKey := b }

/-- Ends the blocks that are further to the right than a column. -/
def endBlocksFrom (column : Int) (x : Lexer) : List Int → Lexer
  | [] => { x with outerIndents := [] }
  | outer :: rest =>
    if column < x.indent then endBlocksFrom column { x.push .blockEnd with indent := outer } rest
    else { x with outerIndents := outer :: rest }

/-- Inside brackets columns do not matter. -/
def endBlocks (column : Int) (x : Lexer) : Lexer :=
  if x.inFlow then x else endBlocksFrom column x x.outerIndents

def isBlockStart (column : Int) (x : Lexer) : Bool := !x.inFlow && x.indent < column

def enterBlock (column : Int) (x : Lexer) : Lexer :=
  { x with indent := column, outerIndents := x.indent :: x.outerIndents }

/-- Starts a block at a column to the right of the innermost one. -/
def startBlock (column : Int) (t : Token) (x : Lexer) : Lexer :=
  if x.isBlockStart column then (x.enterBlock column).push t else x

/-- Where nothing but a key can stand, a key must not be given up. -/
def dropKey (x : Lexer) : Except Fault Lexer :=
  if x.key.any (·.required) then .error .malformed else .ok { x with key := none }

/-- The next token may be a key. -/
def saveKey (x : Lexer) : Except Fault Lexer := do
  if x.mayKey then
    let x ← x.dropKey
    return { x with key := some {
      number := x.count, index := x.cursor.index, line := x.cursor.line, column := x.cursor.column
      required := !x.inFlow && x.indent = x.column } }
  else return x

/-- A key must end in the line where it starts. -/
def dropStaleKeys (x : Lexer) : Except Fault Lexer :=
  let isStale (k : PendingKey) : Bool := k.isStale x.cursor
  if (x.key :: x.outerKeys).any (·.any fun k => isStale k && k.required) then .error .malformed
  else .ok { x with
    key := x.key.filter (!isStale ·)
    outerKeys := x.outerKeys.map (·.filter (!isStale ·)) }

/-- Goes to the next token. After a line end a key may start unless brackets are open. -/
def skipBlanks : (fuel : Nat) → Lexer → Lexer
  | 0, x => x
  | fuel + 1, x =>
    match x.cursor.skipSpaces.skipComment.lineBreak with
    | ([], c) => { x with cursor := c }
    | (_, c) => skipBlanks fuel { x with cursor := c, mayKey := x.mayKey || !x.inFlow }

/-! ## Tags, anchors and directives -/

def isTagChar (c : Char) : Bool :=
  c.isAlphanum || "-;/?:@&=+$,_.!~*'()[]".toList.contains c

/-- Bytes in hexadecimal, each behind a percent sign. -/
def percentBytes : List Char → Option (List UInt8 × List Char)
  | '%' :: a :: b :: rest => do
    let n ← Number.natOfDigits? 16 [a, b]
    let (more, rest) ← percentBytes rest
    return (UInt8.ofNat n :: more, rest)
  | '%' :: _ => none
  | rest => some ([], rest)

/-- The name of a tag, in which characters may be written as their bytes. -/
def tagName : (fuel : Nat) → Cursor → Reading
  | 0, c => .ok ([], c)
  | fuel + 1, c =>
    match c.span isTagChar with
    | (run, c) =>
      if c.peek = some '%' then
        match percentBytes c.left with
        | some (bytes, rest) =>
          match String.fromUTF8? ⟨bytes.toArray⟩ with
          | some s => do
            let (more, c) ← tagName fuel (c.skip (c.left.length - rest.length))
            return (run ++ s.toList ++ more, c)
          | none => .error .malformed
        | none => .error .malformed
      else .ok (run, c)

def nonemptyTagName (c : Cursor) : Reading := do
  let (name, d) ← tagName (c.left.length + 1) c
  if c.left.length = d.left.length then throw .malformed else return (name, d)

/-- One exclamation mark, or two with a name between them. -/
def tagHandle (c : Cursor) : Reading :=
  match c.left with
  | '!' :: ' ' :: _ => .ok (['!'], c.next)
  | '!' :: rest =>
    let name := rest.takeWhile isNameChar
    match rest.drop name.length with
    | '!' :: _ => .ok ('!' :: (name ++ ['!']), c.skip (name.length + 2))
    | _ => .error .malformed
  | _ => .error .malformed

/-- A handle has a second exclamation mark before the word ends. -/
def hasHandle (c : Cursor) : Bool :=
  (c.left.tail.takeWhile fun x => !(isSpace x || isBreak x)).contains '!'

def tagToken (c : Cursor) : Except Fault (Token × Cursor) := do
  let (t, c) ← match c.peekNext with
    | some '<' => do
      let (name, c) ← nonemptyTagName (c.skip 2)
      if c.peek = some '>' then pure (Token.tag none (String.ofList name), c.next) else throw .malformed
    | after => do
      if endsWordOrTab after then pure (Token.tag none "!", c.next)
      else
        let (handle, c) ← if hasHandle c then tagHandle c else pure (['!'], c.next)
        let (name, c) ← nonemptyTagName c
        pure (Token.tag (some (String.ofList handle)) (String.ofList name), c)
  if endsWord c.peek then return (t, c) else throw .malformed

/-- What may follow the name of an anchor or an alias. -/
def endsName (c : Option Char) : Bool :=
  endsWordOrTab c || c.any fun x => ['?', ':', ',', ']', '}', '%', '@', Char.ofNat 96].contains x

def name (c : Cursor) : Reading :=
  match c.next.span isNameChar with
  | ([], _) => .error .malformed
  | (s, c) => if endsName c.peek then .ok (s, c) else .error .malformed

def versionPart (c : Cursor) : Except Fault (Nat × Cursor) :=
  let (digits, c) := c.span Char.isDigit
  match Number.natOfDigits? 10 digits with
  | some n => if Number.digitLimit < digits.length then .error (.data .numberTooLong) else .ok (n, c)
  | none => .error .malformed

/-- The rest of a directive after its name. -/
def directiveBody (name : List Char) (c : Cursor) : Except Fault (Directive × Cursor) := do
  if name = "YAML".toList then
    let (major, c) ← versionPart c.skipSpaces
    if c.peek ≠ some '.' then throw .malformed
    let (_, c) ← versionPart c.next
    if endsWord c.peek then return (.version major, c) else throw .malformed
  else if name = "TAG".toList then
    let (handle, c) ← tagHandle c.skipSpaces
    if c.peek ≠ some ' ' then throw .malformed
    let (start, c) ← nonemptyTagName c.skipSpaces
    if endsWord c.peek then return (.handle (String.ofList handle) (String.ofList start), c)
    else throw .malformed
  else return (.other, c.skipWhile (!isBreak ·))

def directive (c : Cursor) : Except Fault (Directive × Cursor) := do
  match c.next.span isNameChar with
  | ([], _) => throw .malformed
  | (name, c) =>
    if !endsWord c.peek then throw .malformed
    let (d, c) ← directiveBody name c
    return (d, ← c.restOfLine)

/-! ## Tokens -/

/-- A token of the outermost level, which ends all blocks. -/
def endAllBlocks (x : Lexer) : Except Fault Lexer :=
  return (← (x.endBlocks (-1)).dropKey).withMayKey false

def readDirective (x : Lexer) : Except Fault Lexer := do
  let x ← x.endAllBlocks
  let (d, c) ← directive x.cursor
  return { x with cursor := c }.push (.directive d)

def readSeparator (t : Token) (x : Lexer) : Except Fault Lexer :=
  return ((← x.endAllBlocks).skip 3).push t

def openFlow (t : Token) (x : Lexer) : Except Fault Lexer := do
  let x ← x.saveKey
  return ({ x with outerKeys := x.key :: x.outerKeys, key := none, mayKey := true }.skip 1).push t

/-- A bracket that closes must have one that opens. -/
def closeFlow (t : Token) (x : Lexer) : Except Fault Lexer := do
  let x ← x.dropKey
  match x.outerKeys with
  | [] => throw .malformed
  | k :: rest => return ({ x with outerKeys := rest, key := k, mayKey := false }.skip 1).push t

def readComma (x : Lexer) : Except Fault Lexer :=
  return ((← x.dropKey).withMayKey true |>.skip 1).push .comma

/-- A mark that stands for an entry, a key or a value, where one may start. -/
def readMark (start mark : Token) (mayKey : Bool) (x : Lexer) : Except Fault Lexer := do
  if !x.inFlow && !x.mayKey then throw .malformed
  let x ← ((x.startBlock x.column start).withMayKey mayKey).dropKey
  return (x.skip 1).push mark

/-- A colon makes a key of what is pending. -/
def readValue (x : Lexer) : Except Fault Lexer :=
  match x.key with
  | some k =>
    let y := { x with key := none, mayKey := false }.insert k.number .key
    let y := if y.isBlockStart k.column then (y.enterBlock k.column).insert k.number .blockMap else y
    .ok ((y.skip 1).push .value)
  | none => x.readMark .blockMap .value (!x.inFlow)

/-- Something that may be a key. -/
def readItem (read : Cursor → Except Fault (Token × Cursor)) (x : Lexer) : Except Fault Lexer := do
  let x ← x.saveKey
  let (t, c) ← read x.cursor
  return ({ x with cursor := c, mayKey := false }).push t

def readBlockScalar (folded : Bool) (x : Lexer) : Except Fault Lexer := do
  let x ← (x.withMayKey true).dropKey
  let (s, c) ← blockText folded x.indent x.cursor.next
  return { x with cursor := c }.push (.scalar false (Text.codesOf s))

def readQuoted (double : Bool) : Lexer → Except Fault Lexer :=
  readItem fun c => do
    let (s, c) ← quotedText double (c.left.length + 1) c.next
    return (.scalar false s, c)

/-- A key may start after a plain scalar if its last line is ended. -/
def readPlain (x : Lexer) : Except Fault Lexer := do
  let x ← x.saveKey
  let (s, ended, c) := plainText x.inFlow (x.indent + 1) (x.cursor.left.length + 1) [] false x.cursor
  return ({ x with cursor := c, mayKey := ended }).push (.scalar true (Text.codesOf s))

/-- Whether a question mark or a colon here is a mark of its own. -/
def isMark (x : Lexer) : Bool := x.inFlow || endsWordOrTab x.cursor.peekNext

/-- Whether a plain scalar starts here. -/
def startsPlain (x : Lexer) (c : Char) : Bool :=
  !(isSpaceOrTab c || isBreak c || "-?:,[]{}#&*!|>'\"%@".toList.contains c || c.toNat = 96) ||
    (!endsWordOrTab x.cursor.peekNext && (c = '-' || (!x.inFlow && (c = '?' || c = ':'))))

/-- Reads the token that starts with a character. -/
def readToken (x : Lexer) (c : Char) : Except Fault Lexer :=
  let atLineStart := x.cursor.column = 0
  if c = '%' && atLineStart then x.readDirective
  else if c = '-' && atLineStart && x.cursor.atSeparator then x.readSeparator .documentStart
  else if c = '.' && atLineStart && x.cursor.atSeparator then x.readSeparator .documentEnd
  else if c = '[' then x.openFlow .flowList
  else if c = '\x7b' then x.openFlow .flowMap
  else if c = ']' then x.closeFlow .flowListEnd
  else if c = '\x7d' then x.closeFlow .flowMapEnd
  else if c = ',' then x.readComma
  else if c = '-' && endsWordOrTab x.cursor.peekNext then x.readMark .blockList .entry true
  else if c = '?' && x.isMark then x.readMark .blockMap .key (!x.inFlow)
  else if c = ':' && x.isMark then x.readValue
  else if c = '*' then x.readItem fun c => do
    let (s, c) ← name c
    return (.alias (String.ofList s), c)
  else if c = '&' then x.readItem fun c => do
    let (s, c) ← name c
    return (.anchor (String.ofList s), c)
  else if c = '!' then x.readItem tagToken
  else if c = '|' && !x.inFlow then x.readBlockScalar false
  else if c = '>' && !x.inFlow then x.readBlockScalar true
  else if c = '\'' then x.readQuoted false
  else if c = '"' then x.readQuoted true
  else if x.startsPlain c then x.readPlain
  else .error .malformed

end Lexer

/-- The tokens of a text as far as they can be told, and why there are no more of them. -/
structure Tokens where
  released : List Token
  fault : Option Fault := none

namespace Lexer

/-- The tokens of which it is known that no key starts at them. -/
def released (x : Lexer) : List Token :=
  let pending := (x.key :: x.outerKeys).filterMap (·.filter fun k => !k.isStale x.cursor)
  let known := pending.foldl (fun n k => min n k.number) x.count
  x.tokens.reverse.take known

/-- Reads the next token; none is left at the end of the text. -/
def step (x : Lexer) : Except Fault (Option Lexer) := do
  let x ← (x.skipBlanks (x.cursor.left.length + 1)).dropStaleKeys
  match x.peek with
  | none => return none
  | some c => return some (← (x.endBlocks x.column).readToken c)

/-- Reads the tokens that are left. -/
def run : (fuel : Nat) → Lexer → Tokens
  | 0, x => ⟨x.released, some .malformed⟩
  | fuel + 1, x =>
    match x.step with
    | .ok (some y) => run fuel y
    | .ok none =>
      match x.endAllBlocks with
      | .ok y => ⟨y.tokens.reverse, none⟩
      | .error f => ⟨x.released, some f⟩
    | .error f => ⟨x.released, some f⟩

end Lexer

/-- The tokens of a text. A byte order mark may stand in front of it. -/
def Tokens.ofText (s : List Char) : Tokens :=
  if s.all isAllowed then
    let start : Cursor := { left := s }
    let start := if s.head? = some '\ufeff' then start.next else start
    Lexer.run (s.length + 1) { cursor := start }
  else ⟨[], some .malformed⟩

end EntityGen.Yaml
