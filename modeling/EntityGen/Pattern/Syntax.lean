import EntityGen.Pattern.CharTest

/-! What regular expressions say, and how much text they can match. -/

namespace EntityGen.Pattern

/-- Conditions on a position. -/
inductive Anchor
  | start
  | startOfLine
  | finish
  | beforeLastBreak
  | endOfLine
  | wordEdge (ascii : Bool)
  | notWordEdge (ascii : Bool)
  deriving DecidableEq

/-- The marks for a position; which condition one means depends on the modes. -/
inductive PlaceMark
  | start
  | caret
  | finish
  | dollar
  | wordEdge
  | notWordEdge
  deriving DecidableEq

inductive Greed
  | greedy
  | lazy
  | possessive
  deriving DecidableEq

/-- The modes that letters in front of a group turn on and off. -/
structure Modes where
  ignoreCase : Bool := false
  multiLine : Bool := false
  dotAll : Bool := false
  verbose : Bool := false
  ascii : Bool := false
  unicode : Bool := false
  /-- Nothing may be repeated. -/
  template : Bool := false
  deriving DecidableEq

/-- The smallest and the largest number of characters of a match, both within bounds. -/
structure Width where
  least : Nat
  most : Nat
  deriving DecidableEq, Inhabited

/-- The bounds of a repetition start at this number, which also stands for no bound. -/
def repetitionLimit : Nat := 4294967295

inductive Item
  | code (negated : Bool) (n : Nat)
  | dot
  | set (negated : Bool) (members : List Member)
  | place (m : PlaceMark)
  /-- The text of a group, of which the width is known. -/
  | same (group : Nat) (width : Width)
  | branch (alternatives : List (List Item))
  | repeated (g : Greed) (least : Nat) (most : Option Nat) (body : List Item)
  | capture (group : Nat) (body : List Item)
  | modified (on off : Modes) (body : List Item)
  | atomic (body : List Item)
  | look (ahead negated : Bool) (body : List Item)
  | ifGroup (group : Nat) (yes : List Item) (no : Option (List Item))
  deriving Inhabited

/-- A regular expression is a sequence. -/
abbrev Sequence := List Item

namespace Item

/-- Whether two items are written the same. Groups and what is made of them are never. -/
def isSame : Item → Item → Bool
  | .code a m, .code b n => a = b && m = n
  | .dot, .dot => true
  | .set a ms, .set b ns => a = b && ms = ns
  | .place a, .place b => a = b
  | .same g _, .same h _ => g = h
  | _, _ => false

/-- The members of a set that takes the place of an item. -/
def members? : Item → Option (List Member)
  | .code false n => some [.code n]
  | .set false ms => some ms
  | _ => none

end Item

namespace Width

def bounded (w : Width) : Width := ⟨min w.least (repetitionLimit - 1), min w.most repetitionLimit⟩

def add (v w : Width) : Width := ⟨v.least + w.least, v.most + w.most⟩

/-- The width of either of two. -/
def either (v w : Width) : Width := ⟨min v.least w.least, max v.most w.most⟩

mutual

def ofItem : Item → Width
  | .code _ _ | .dot | .set _ _ => ⟨1, 1⟩
  | .place _ | .look _ _ _ => ⟨0, 0⟩
  | .same _ w => w
  | .branch alternatives => ofAlternatives alternatives
  | .repeated _ least most body =>
    let w := ofSequence body
    ⟨w.least * least, w.most * most.getD repetitionLimit⟩
  | .capture _ body | .modified _ _ body | .atomic body => ofSequence body
  | .ifGroup _ yes no =>
    let w := ofSequence yes
    match no with
    | some items => w.either (ofSequence items)
    | none => ⟨0, w.most⟩

def ofSequence (items : List Item) : Width := (total items).bounded

def total : List Item → Width
  | [] => ⟨0, 0⟩
  | i :: rest => (ofItem i).add (total rest)

def ofAlternatives : List (List Item) → Width
  | [] => ⟨repetitionLimit - 1, 0⟩
  | items :: rest => (ofSequence items).either (ofAlternatives rest)

end

end Width
end EntityGen.Pattern
