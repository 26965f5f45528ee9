import EntityGen.Pattern.Parser

/-! Regular expressions as steps, each with the step that comes next. -/

namespace EntityGen.Pattern

inductive Program
  | finish
  /-- Notes the place: of the start of a group under an even number, of its end under an odd one. -/
  | mark (index : Nat) (next : Program)
  | one (t : CharTest) (next : Program)
  | place (a : Anchor) (next : Program)
  | same (mode : CaseMode) (group : Nat) (next : Program)
  /-- One of several alternatives, which are a chain of `either` up to `never`. -/
  | choose (alternatives next : Program)
  | either (first others : Program)
  | never
  /-- The second program follows if the group has no text. -/
  | ifGroup (group : Nat) (yes no next : Program)
  /-- One character over and over. -/
  | many (g : Greed) (least : Nat) (most : Option Nat) (t : CharTest) (next : Program)
  | rounds (g : Greed) (least : Nat) (most : Option Nat) (body next : Program)
  | look (back : Nat) (negated : Bool) (body next : Program)
  | atomic (body next : Program)
  deriving DecidableEq, Inhabited

namespace Modes

def caseMode (m : Modes) : CaseMode :=
  if !m.ignoreCase then .exact else if m.ascii then .ascii else .unicode

/-- The modes inside a group that may name an alphabet of its own. -/
def within (m on off : Modes) : Modes where
  ignoreCase := (m.ignoreCase || on.ignoreCase) && !off.ignoreCase
  multiLine := (m.multiLine || on.multiLine) && !off.multiLine
  dotAll := (m.dotAll || on.dotAll) && !off.dotAll
  verbose := (m.verbose || on.verbose) && !off.verbose
  ascii := if on.ascii || on.unicode then on.ascii else m.ascii
  unicode := m.unicode
  template := m.template

end Modes

def PlaceMark.anchor (m : Modes) : PlaceMark → Anchor
  | .start => .start
  | .caret => if m.multiLine then .startOfLine else .start
  | .finish => .finish
  | .dollar => if m.multiLine then .endOfLine else .beforeLastBreak
  | .wordEdge => .wordEdge m.ascii
  | .notWordEdge => .notWordEdge m.ascii

namespace Item

/-- The test of an item that is one character. -/
def test? (m : Modes) : Item → Option CharTest
  | .code negated n => some (.ofCode m.caseMode negated n)
  | .dot => some (if m.dotAll then .any else .anyInLine)
  | .set negated ms => some (.ofMembers m.caseMode m.ascii negated ms)
  | _ => none

mutual

/-- The test of an item that is one character, perhaps in modes of its own. -/
def single? (m : Modes) : Item → Option CharTest
  | .modified on off body => singleOf? (m.within on off) body
  | i => i.test? m

def singleOf? (m : Modes) : List Item → Option CharTest
  | [i] => single? m i
  | _ => none

end

end Item

namespace Program

mutual

/-- The steps of an item and then `next`. Nothing is repeated in a template, and what looks back has one
width. -/
def ofItem (m : Modes) (next : Program) : Item → Except Fault Program
  | .code negated n => .ok (.one (.ofCode m.caseMode negated n) next)
  | .dot => .ok (.one (if m.dotAll then .any else .anyInLine) next)
  | .set negated ms => .ok (.one (.ofMembers m.caseMode m.ascii negated ms) next)
  | .place p => .ok (.place (p.anchor m) next)
  | .same group _ => .ok (.same m.caseMode group next)
  | .branch alternatives => do return .choose (← ofAlternatives m alternatives) next
  | .repeated g least most body => do
    if m.template then throw .malformed
    match Item.singleOf? m body with
    | some t => return .many g least most t next
    | none => return .rounds g least most (← ofSequence m .finish body) next
  | .capture group body => do
    return .mark (2 * group - 2) (← ofSequence m (.mark (2 * group - 1) next) body)
  | .modified on off body => ofSequence (m.within on off) next body
  | .atomic body => do return .atomic (← ofSequence m .finish body) next
  | .look ahead negated body => do
    let w := Width.ofSequence body
    if !ahead && w.least ≠ w.most then throw .malformed
    return .look (if ahead then 0 else w.least) negated (← ofSequence m .finish body) next
  | .ifGroup group yes no => do
    let otherwise ← match no with
      | some items => ofSequence m .finish items
      | none => pure .finish
    return .ifGroup group (← ofSequence m .finish yes) otherwise next

def ofSequence (m : Modes) (next : Program) : List Item → Except Fault Program
  | [] => .ok next
  | i :: rest => do ofItem m (← ofSequence m next rest) i

def ofAlternatives (m : Modes) : List (List Item) → Except Fault Program
  | [] => .ok .never
  | items :: rest => do return .either (← ofSequence m .finish items) (← ofAlternatives m rest)

end

end Program

/-- A regular expression that is ready to match texts. -/
structure Expr where
  program : Program
  /-- No match is shorter. -/
  least : Nat
  /-- How many groups there are marks for. -/
  groups : Nat
  deriving DecidableEq, Inhabited

def Program.groups : Program → Nat
  | .finish | .never => 0
  | .mark index next => max (index / 2 + 1) next.groups
  | .one _ next | .place _ next | .same _ _ next | .many _ _ _ _ next => next.groups
  | .choose a b | .either a b | .rounds _ _ _ a b | .look _ _ a b | .atomic a b => max a.groups b.groups
  | .ifGroup _ yes no next => max (max yes.groups no.groups) next.groups

/-- Reads a regular expression. -/
def Expr.ofText (s : List Char) : Except Fault Expr := do
  let (items, modes) ← parse s
  let program ← Program.ofSequence modes .finish items
  return { program, least := (Width.ofSequence items).least, groups := program.groups }

end EntityGen.Pattern
