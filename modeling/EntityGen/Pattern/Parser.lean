import EntityGen.Number.Numeral
import EntityGen.Pattern.Syntax
import EntityGen.Text.CharName
import EntityGen.Text.Identifier

/-! Reading regular expressions. -/

namespace EntityGen.Pattern

/-- Why a text is no regular expression. -/
inductive Fault
  | malformed
  | repetitionTooLarge
  | numberTooLong
  | codeTooLarge
  | conflictingAlphabets
  | tooDeep
  deriving DecidableEq

/-- A backslash takes the character behind it along. -/
inductive Token
  | plain (c : Char)
  | escaped (c : Char)
  deriving DecidableEq

def Token.chars : Token → List Char
  | .plain c => [c]
  | .escaped c => ['\\', c]

namespace Modes

def add (m : Modes) : Char → Option Modes
  | 'i' => some { m with ignoreCase := true }
  | 'm' => some { m with multiLine := true }
  | 's' => some { m with dotAll := true }
  | 'x' => some { m with verbose := true }
  | 'a' => some { m with ascii := true }
  | 'u' => some { m with unicode := true }
  | 't' => some { m with template := true }
  | _ => none

def union (m n : Modes) : Modes where
  ignoreCase := m.ignoreCase || n.ignoreCase
  multiLine := m.multiLine || n.multiLine
  dotAll := m.dotAll || n.dotAll
  verbose := m.verbose || n.verbose
  ascii := m.ascii || n.ascii
  unicode := m.unicode || n.unicode
  template := m.template || n.template

def overlap (m n : Modes) : Bool :=
  m.ignoreCase && n.ignoreCase || m.multiLine && n.multiLine || m.dotAll && n.dotAll ||
    m.verbose && n.verbose

end Modes

/-- What is left to read, and what has been read so far besides the expression itself. -/
structure Reader where
  next : Option Token
  left : List Char
  modes : Modes := {}
  /-- The widths of the groups in order, `none` while a group is open. -/
  groups : List (Option Width) := []
  names : List (List Char × Nat) := []
  /-- How many groups there were where the outermost look back began. -/
  lookingBack : Option Nat := none
  /-- The numbers that conditions refer to. -/
  conditions : List Nat := []
  /-- How many groups are open. -/
  depth : Nat := 0

abbrev Read := StateT Reader (Except Fault)

def fail {α : Type} : Read α := throw .malformed

/-- The first token of a text and what is left of it. A backslash at the end is no token. -/
def cutToken : List Char → Except Fault (Option Token × List Char)
  | [] => .ok (none, [])
  | ['\\'] => .error .malformed
  | '\\' :: c :: rest => .ok (some (.escaped c), rest)
  | c :: rest => .ok (some (.plain c), rest)

def peek : Read (Option Token) := return (← get).next

/-- Takes a token. The one behind it is looked at already. -/
def next : Read (Option Token) := do
  let s ← get
  let (t, left) ← cutToken s.left
  set { s with next := t, left }
  return s.next

/-- Takes a plain character if it comes next. -/
def take (c : Char) : Read Bool := do
  if (← peek) = some (.plain c) then
    discard next
    return true
  else return false

/-- Plain characters of a class, `n` at most. -/
def takeWhile (p : Char → Bool) : Nat → Read (List Char)
  | 0 => return []
  | n + 1 => do
    match ← peek with
    | some (.plain c) =>
      if p c then
        discard next
        return c :: (← takeWhile p n)
      else return []
    | _ => return []

/-- All characters before `stop`, of which there is at least one. -/
def takeUntil (stop : Char) : (fuel : Nat) → List Char → Read (List Char)
  | 0, _ => fail
  | fuel + 1, done => do
    match ← next with
    | none => fail
    | some t =>
      if t = .plain stop then
        if done.isEmpty then fail else return done
      else takeUntil stop fuel (done ++ t.chars)

/-- How many groups may be open at once. -/
def depthLimit : Nat := 490

/-- Reads what is inside of a group. -/
def nested {α : Type} (r : Read α) : Read α := do
  let depth := (← get).depth
  if depthLimit ≤ depth then throw .tooDeep
  modify fun s => { s with depth := depth + 1 }
  let a ← r
  modify fun s => { s with depth }
  return a

/-- More steps than there are characters to read. -/
def fuel : Read Nat := return (← get).left.length + 2

/-! ## Escapes -/

def isHexDigit (c : Char) : Bool := (Number.digitOf? c).any (· < 16)

def isOctalDigit (c : Char) : Bool := '0' ≤ c && c ≤ '7'

def codeOfDigits (base : Nat) (ds : List Char) : Nat := (Number.natOfDigits? base ds).getD 0

/-- An escape of exactly `count` hexadecimal digits. -/
def hexEscape (count : Nat) : Read Nat := do
  let ds ← takeWhile isHexDigit count
  let n := codeOfDigits 16 ds
  if ds.length ≠ count then fail
  if 0x80000000 ≤ n then throw .codeTooLarge
  if n < 0x110000 then return n else fail

/-- A character by its name in braces. -/
def nameEscape : Read Nat := do
  if !(← take '\x7b') then fail
  match Text.codeOfName? (← takeUntil '\x7d' (← fuel) []) with
  | some n => return n
  | none => fail

def category? : Char → Option Member
  | 'd' => some (.category .digit false)
  | 'D' => some (.category .digit true)
  | 's' => some (.category .blank false)
  | 'S' => some (.category .blank true)
  | 'w' => some (.category .word false)
  | 'W' => some (.category .word true)
  | _ => none

def control? : Char → Option Nat
  | 'a' => some 7
  | 'b' => some 8
  | 't' => some 9
  | 'n' => some 10
  | 'v' => some 11
  | 'f' => some 12
  | 'r' => some 13
  | '\\' => some 92
  | _ => none

/-- An escape that means one character wherever it stands. -/
def charEscape (c : Char) : Read Nat := do
  if c = 'x' then hexEscape 2
  else if c = 'u' then hexEscape 4
  else if c = 'U' then hexEscape 8
  else if c = 'N' then nameEscape
  else if c.isAlphanum then fail
  else return c.toNat

/-- An octal escape of three digits stays below four hundred. -/
def octalEscape (ds : List Char) : Read Nat := do
  let n := codeOfDigits 8 ds
  if n ≤ 0o377 then return n else fail

/-- An escape inside a set. -/
def memberEscape (c : Char) : Read Member := do
  if let some n := control? c then return .code n
  if let some m := category? c then return m
  if isOctalDigit c then return .code (← octalEscape (c :: (← takeWhile isOctalDigit 2)))
  return .code (← charEscape c)

def member : Token → Read Member
  | .plain c => return .code c.toNat
  | .escaped c => memberEscape c

/-- The members of a set up to its closing bracket, latest first. -/
def members : (fuel : Nat) → List Member → Read (List Member)
  | 0, _ => fail
  | fuel + 1, done => do
    match ← next with
    | none => fail
    | some t =>
      if t = .plain ']' && !done.isEmpty then return done
      let low ← member t
      if ← take '-' then
        match ← next with
        | none => fail
        | some (.plain ']') => return .code '-'.toNat :: low :: done
        | some u =>
          match low, ← member u with
          | .code a, .code b => if b < a then fail else members fuel (.range a b :: done)
          | _, _ => fail
      else members fuel (low :: done)

/-- A set of one character is that character. -/
def setItem (negated : Bool) (ms : List Member) : Item :=
  match ms.eraseDups with
  | [.code n] => .code negated n
  | ms => .set negated ms

/-- A reference to a group that is closed. -/
def reference (index : Nat) : Read Item := do
  let s ← get
  match s.groups[index - 1]? with
  | some (some w) =>
    if index = 0 then fail
    if s.lookingBack.any (· < index) then fail
    return .same index w
  | _ => fail

/-- Two digits may be an octal escape if a third one follows; all else is a reference. -/
def numberEscape (c : Char) : Read Item := do
  if c = '0' then
    return .code false (codeOfDigits 8 (c :: (← takeWhile isOctalDigit 2)))
  match ← takeWhile Char.isDigit 1 with
  | [d] =>
    if isOctalDigit c && isOctalDigit d then
      match ← takeWhile isOctalDigit 1 with
      | [e] => return .code false (← octalEscape [c, d, e])
      | _ => reference (codeOfDigits 10 [c, d])
    else reference (codeOfDigits 10 [c, d])
  | _ => reference (codeOfDigits 10 [c])

/-- An escape outside of sets. -/
def escape (c : Char) : Read Item := do
  match c with
  | 'A' => return .place .start
  | 'Z' => return .place .finish
  | 'b' => return .place .wordEdge
  | 'B' => return .place .notWordEdge
  | _ =>
    if let some k := category? c then return .set false [k]
    if let some n := control? c then return .code false n
    if c.isDigit then numberEscape c
    else return .code false (← charEscape c)

/-! ## Repetitions -/

/-- The most digits of a bound. -/
def boundDigits : Nat := 4300

def bound? (ds : List Char) : Read (Option Nat) := do
  if ds.isEmpty then return none
  if boundDigits < ds.length then throw .numberTooLong
  let n := codeOfDigits 10 ds
  if repetitionLimit ≤ n then throw .repetitionTooLarge
  return some n

/-- The bounds between braces; `none` if the braces are no repetition. -/
def braces : Read (Option (Nat × Option Nat)) := do
  let s ← get
  if (← peek) = some (.plain '\x7d') then return none
  let n ← fuel
  let low ← takeWhile Char.isDigit n
  let high ← if ← take ',' then takeWhile Char.isDigit n else pure low
  if ← take '\x7d' then
    let least ← bound? low
    let most ← bound? high
    if most.any (· < least.getD 0) then fail
    return some (least.getD 0, most)
  else
    set s
    return none

/-- A repetition is greedy unless a sign behind it says otherwise. -/
def greed : Read Greed := do
  if ← take '?' then return .lazy
  if ← take '+' then return .possessive
  return .greedy

/-- What is repeated when an item is: the items of a group that does nothing else. -/
def Item.repeatedItems : Item → Sequence
  | .modified on off body => if on = {} && off = {} then body else [.modified on off body]
  | i => [i]

/-- Repeats the last item. Neither a place nor a repetition can be repeated. -/
def repeatLast (least : Nat) (most : Option Nat) : List Item → Read (List Item)
  | [] | .place _ :: _ | .repeated _ _ _ _ :: _ => fail
  | i :: done => return .repeated (← greed) least most i.repeatedItems :: done

/-! ## Groups -/

/-- Letters of modes up to one of the signs that end them, and that sign. -/
def modeLetters : (fuel : Nat) → Modes → Char → Read (Modes × Char)
  | 0, _, _ => fail
  | fuel + 1, on, c => do
    match on.add c with
    | none => fail
    | some on =>
      if on.ascii && on.unicode then fail
      match ← next with
      | some (.plain d) => if d = ')' || d = '-' || d = ':' then return (on, d) else modeLetters fuel on d
      | _ => fail

/-- The modes that a group begins with, or `none` if they hold for the whole expression. -/
def groupModes (c : Char) : Read (Option (Modes × Modes)) := do
  let (on, stop) ← if c = '-' then pure ({}, '-') else modeLetters (← fuel) {} c
  if stop = ')' then
    modify fun s => { s with modes := s.modes.union on }
    return none
  if on.template then fail
  if stop = ':' then return some (on, {})
  match ← next with
  | some (.plain d) =>
    let (off, stop) ← modeLetters (← fuel) {} d
    if stop ≠ ':' || off.ascii || off.unicode || off.template || on.overlap off then fail
    return some (on, off)
  | _ => fail

/-- Group numbers are below this one. -/
def groupLimit : Nat := 2147483647

/-- The number of the group that a condition names. -/
def conditionGroup : Read Nat := do
  let name ← takeUntil ')' (← fuel) []
  let s ← get
  let index ← if Text.isIdentifier name then
      match s.names.find? (·.1 = name) with
      | some (_, i) => pure i
      | none => fail
    else
      match Number.int? name with
      | some n =>
        if n ≤ 0 || (groupLimit : Int) ≤ n then fail
        modify fun s => { s with conditions := n.toNat :: s.conditions }
        pure n.toNat
      | none => fail
  if s.lookingBack.any fun g => g < index || !(s.groups[index - 1]?.any Option.isSome) then fail
  return index

def openGroup (name : Option (List Char)) : Read Nat := do
  let s ← get
  let index := s.groups.length + 1
  let names ← match name with
    | none => pure s.names
    | some n => if s.names.any (·.1 = n) then fail else pure ((n, index) :: s.names)
  set { s with groups := s.groups ++ [none], names }
  return index

def closeGroup (index : Nat) (body : Sequence) : Read Unit :=
  modify fun s => { s with groups := s.groups.set (index - 1) (some (.ofSequence body)) }

/-- Skips a comment behind a number sign, up to the end of the line. -/
def skipLine : (fuel : Nat) → Read Unit
  | 0 => return
  | fuel + 1 => do
    match ← next with
    | none | some (.plain '\n') => return
    | some _ => skipLine fuel

def skipRemark : (fuel : Nat) → Read Unit
  | 0 => fail
  | fuel + 1 => do
    match ← next with
    | none => fail
    | some (.plain ')') => return
    | some _ => skipRemark fuel

def isPatternBlank (c : Char) : Bool := c = ' ' || (9 ≤ c.toNat && c.toNat ≤ 13)

/-- How the text behind a question mark makes a group. -/
inductive Opening
  | capturing (name : Option (List Char))
  | plain (on off : Modes)
  | atomic
  | look (ahead negated : Bool)
  | condition (index : Nat)
  | backReference (index : Nat)
  | remark
  | global

/-- Reads from behind the opening parenthesis. -/
def opening : Read Opening := do
  if !(← take '?') then return .capturing none
  match ← next with
  | some (.plain c) =>
    match c with
    | 'P' =>
      if ← take '<' then
        let name ← takeUntil '>' (← fuel) []
        if Text.isIdentifier name then return .capturing (some name) else fail
      else if ← take '=' then
        let name ← takeUntil ')' (← fuel) []
        match (← get).names.find? (·.1 = name) with
        | some (_, i) => return .backReference i
        | none => fail
      else fail
    | ':' => return .plain {} {}
    | '#' => skipRemark (← fuel); return .remark
    | '=' => return .look true false
    | '!' => return .look true true
    | '<' =>
      match ← next with
      | some (.plain '=') => return .look false false
      | some (.plain '!') => return .look false true
      | _ => fail
    | '(' => return .condition (← conditionGroup)
    | '>' => return .atomic
    | _ =>
      match ← groupModes c with
      | some (on, off) => return .plain on off
      | none => return .global
  | _ => fail

/-! ## Sequences -/

/-- A group that does nothing but hold a sequence together is left out. -/
def flatten (items : List Item) : Sequence :=
  items.flatMap fun i => match i with
    | .modified on off body => if on = {} && off = {} then body else [i]
    | _ => [i]

/-- Moves what all alternatives start with in front of them. -/
def commonStart : (fuel : Nat) → List Sequence → Sequence × List Sequence
  | 0, alternatives => ([], alternatives)
  | fuel + 1, alternatives =>
    match alternatives with
    | (first :: _) :: _ =>
      if alternatives.all fun items => items.head?.any first.isSame then
        let (more, rest) := commonStart fuel (alternatives.map List.tail)
        (first :: more, rest)
      else ([], alternatives)
    | _ => ([], alternatives)

/-- The members of a set that takes the place of alternatives that are one character each. -/
def setOf? (alternatives : List Sequence) : Option (List Member) :=
  (alternatives.mapM fun (items : Sequence) => match items with
    | [i] => i.members?
    | _ => none).map List.flatten

/-- One alternative is itself; several are a set if they can be one. -/
def joinAlternatives : List Sequence → Sequence
  | [items] => items
  | alternatives =>
    let (start, rest) := commonStart (alternatives.flatten.length + 1) alternatives
    match setOf? rest with
    | some ms => start ++ [.set false ms.eraseDups]
    | none => start ++ [.branch rest]

mutual

/-- Alternatives up to a closing parenthesis or the end. -/
def alternatives : (fuel : Nat) → (outermost first verbose : Bool) → Read (List Sequence)
  | 0, _, _, _ => fail
  | fuel + 1, outermost, first, verbose => do
    let items ← items fuel (outermost && first) verbose []
    if ← take '|' then
      let modes := (← get).modes
      let verbose := if outermost then modes.verbose else verbose
      return items :: (← alternatives fuel outermost false verbose)
    else return [items]

/-- A sequence, of which `done` has been read, latest item first. -/
def items : (fuel : Nat) → (first verbose : Bool) → List Item → Read Sequence
  | 0, _, _, _ => fail
  | fuel + 1, first, verbose, done => do
    match ← peek with
    | none | some (.plain '|') | some (.plain ')') => return flatten done.reverse
    | some t =>
      discard next
      match t with
      | .escaped c => items fuel first verbose ((← escape c) :: done)
      | .plain c =>
        if verbose && isPatternBlank c then items fuel first verbose done
        else if verbose && c = '#' then
          skipLine fuel
          items fuel first verbose done
        else match c with
          | '[' =>
            let negated ← take '^'
            let ms ← members fuel []
            items fuel first verbose (setItem negated ms.reverse :: done)
          | '?' => items fuel first verbose (← repeatLast 0 (some 1) done)
          | '*' => items fuel first verbose (← repeatLast 0 none done)
          | '+' => items fuel first verbose (← repeatLast 1 none done)
          | '\x7b' =>
            match ← braces with
            | some (least, most) => items fuel first verbose (← repeatLast least most done)
            | none => items fuel first verbose (.code false c.toNat :: done)
          | '.' => items fuel first verbose (.dot :: done)
          | '^' => items fuel first verbose (.place .caret :: done)
          | '$' => items fuel first verbose (.place .dollar :: done)
          | '(' =>
            match ← opening with
            | .remark => items fuel first verbose done
            | .global =>
              let verbose := (← get).modes.verbose
              if first && done.isEmpty then items fuel first verbose done else fail
            | .backReference i => items fuel first verbose ((← reference i) :: done)
            | o => items fuel first verbose ((← nested (group fuel verbose o)) :: done)
          | _ => items fuel first verbose (.code false c.toNat :: done)

/-- The body of a group and its closing parenthesis. -/
def group : (fuel : Nat) → (verbose : Bool) → Opening → Read Item
  | 0, _, _ => fail
  | fuel + 1, verbose, o => do
    let close {α : Type} (a : α) : Read α := do
      if ← take ')' then return a else fail
    let body (verbose : Bool) : Read Sequence :=
      return joinAlternatives (← alternatives fuel false false verbose)
    match o with
    | .capturing name =>
      let index ← openGroup name
      let items ← close (← body verbose)
      closeGroup index items
      return .capture index items
    | .plain on off =>
      return .modified on off (← close (← body ((verbose || on.verbose) && !off.verbose)))
    | .atomic => return .atomic (← close (← body verbose))
    | .look true negated => return .look true negated (← close (← body verbose))
    | .look false negated =>
      let before := (← get).lookingBack
      modify fun s => { s with lookingBack := some (before.getD s.groups.length) }
      let items ← body verbose
      modify fun s => { s with lookingBack := before }
      return .look false negated (← close items)
    | .condition index =>
      let yes ← items fuel false verbose []
      if ← take '|' then
        let no ← items fuel false verbose []
        return .ifGroup index yes (some (← close no))
      else return .ifGroup index (← close yes) none
    | .backReference _ | .remark | .global => fail

end

/-- The whole text as one expression, and the modes that hold for all of it. -/
def parse (s : List Char) : Except Fault (Sequence × Modes) := do
  let (t, left) ← cutToken s
  let (as, r) ← (alternatives (3 * s.length + 3) true true false).run { next := t, left }
  if r.modes.ascii && r.modes.unicode then throw .conflictingAlphabets
  if r.next.isSome || r.conditions.any (r.groups.length < ·) then throw .malformed
  return (joinAlternatives as, r.modes)

end EntityGen.Pattern
