import EntityGen.Yaml.Node
import EntityGen.Yaml.Token

/-! The nodes that the tokens of a document make up. -/

namespace EntityGen.Yaml

/-- What is left to read, the nodes that were made of the rest, and the names that were given so far. -/
structure Composition where
  left : Tokens
  graph : Graph := {}
  handles : List (String × String)
  anchors : List (String × Nat) := []
  /-- How many containers are open. -/
  depth : Nat := 0

/-- How many containers may be open at once. -/
def depthLimit : Nat := 490

/-- The handles that every document has. -/
def usualHandles : List (String × String) := [("!", "!"), ("!!", tagStart)]

abbrev Compose := StateT Composition (Except Fault)

/-- The names in front of a node. -/
structure Properties where
  anchor : Option String := none
  tag : Option String := none

namespace Properties

def isEmpty (p : Properties) : Bool := p.anchor.isNone && p.tag.isNone

/-- A lone exclamation mark leaves the kind to the text. -/
def leavesTag (p : Properties) : Bool := p.tag.all (· = "!")

def tagOr (p : Properties) (usual : Tag) : Tag :=
  if p.leavesTag then usual else (p.tag.map Tag.ofName).getD usual

/-- The kind of a scalar. Without a tag only a plain one is more than a text. -/
def scalarTag (p : Properties) (plain : Bool) (codes : List Nat) : Tag :=
  if plain || p.tag.isSome then p.tagOr (.ofPlain (Text.charsOf codes)) else .text

end Properties

namespace Compose

def malformed {α : Type} : Compose α := throw .malformed

/-- The next token. What is wrong behind the tokens counts only when they are used up. -/
def peek : Compose (Option Token) := do
  match (← get).left with
  | ⟨t :: _, _⟩ => return some t
  | ⟨[], some f⟩ => throw f
  | ⟨[], none⟩ => return none

def skip : Compose Unit :=
  modify fun c => { c with left := { c.left with released := c.left.released.tail } }

/-- Reads a token if it is this one. -/
def accept (t : Token) : Compose Bool := do
  if (← peek) = some t then
    skip
    return true
  else return false

def expect (t : Token) : Compose Unit := do
  if !(← accept t) then malformed

def startsWith (ts : List Token) : Compose Bool := return (← peek).any ts.contains

/-- The node of an alias. -/
def aliased (name : String) : Compose Nat := do
  match (← get).anchors.lookup name with
  | some n => return n
  | none => malformed

def expandTag : Option String × String → Compose String
  | (none, name) => return name
  | (some handle, name) => do
    match (← get).handles.lookup handle with
    | some start => return start ++ name
    | none => malformed

def anchor? : Compose (Option String) := do
  match ← peek with
  | some (.anchor name) =>
    skip
    return some name
  | _ => return none

def tag? : Compose (Option (Option String × String)) := do
  match ← peek with
  | some (.tag handle name) =>
    skip
    return some (handle, name)
  | _ => return none

/-- Reads at most one anchor and one tag, in either order. -/
def properties : Compose Properties := do
  match ← anchor? with
  | some name =>
    let tag ← tag?
    return { anchor := some name, tag := ← tag.mapM expandTag }
  | none =>
    match ← tag? with
    | some tag =>
      let anchor ← anchor?
      return { anchor, tag := some (← expandTag tag) }
    | none => return {}

/-- Makes a node. The name of an anchor is given only once. -/
def add (p : Properties) (node : Node) : Compose Nat := do
  let c ← get
  if p.anchor.any fun name => (c.anchors.lookup name).isSome then malformed
  let (n, graph) := c.graph.add node
  let anchors := match p.anchor with
    | some name => (name, n) :: c.anchors
    | none => c.anchors
  set { c with graph, anchors }
  return n

def scalar (p : Properties) (plain : Bool) (codes : List Nat) : Compose Nat :=
  add p ⟨p.scalarTag plain codes, .scalar codes⟩

def emptyNode : Compose Nat := add {} ⟨.null, .scalar []⟩

def setBody (n : Nat) (body : Body) : Compose Unit :=
  modify fun c => { c with graph := c.graph.setBody n body }

/-- Reads the parts of a container. -/
def inside {α : Type} (parts : Compose α) : Compose α := do
  let depth := (← get).depth
  if depthLimit ≤ depth then throw (.data .tooDeep)
  modify fun c => { c with depth := depth + 1 }
  let a ← parts
  modify fun c => { c with depth }
  return a

/-- A list; its anchor can be used inside of it. -/
def listOf (p : Properties) (items : Compose (List Nat)) : Compose Nat := do
  let n ← add p ⟨p.tagOr .list, .list []⟩
  setBody n (.list (← inside items))
  return n

/-- A mapping; its anchor can be used inside of it. -/
def mapOf (p : Properties) (entries : Compose (List (Nat × Nat))) : Compose Nat := do
  let n ← add p ⟨p.tagOr .map, .map []⟩
  setBody n (.map (← inside entries))
  return n

mutual

/-- Reads a node. Blocks may stand in blocks only, and a list without an indentation of its own only
behind a key. -/
def node (block indentless : Bool) : (fuel : Nat) → Compose Nat
  | 0 => malformed
  | fuel + 1 => do
    match ← peek with
    | some (.alias name) =>
      skip
      aliased name
    | _ =>
      let p ← properties
      match ← peek with
      | some (.scalar plain s) =>
        skip
        scalar p plain s
      | some .flowList =>
        skip
        listOf p (flowItems true fuel)
      | some .flowMap =>
        skip
        mapOf p (flowEntries true fuel)
      | some .entry =>
        if indentless then listOf p (openItems fuel) else emptyOr p
      | some .blockList =>
        if block then
          skip
          listOf p (blockItems fuel)
        else emptyOr p
      | some .blockMap =>
        if block then
          skip
          mapOf p (blockEntries fuel)
        else emptyOr p
      | _ => emptyOr p

/-- A node without content has at least a tag or an anchor. -/
def emptyOr (p : Properties) : Compose Nat :=
  if p.isEmpty then malformed else scalar p true []

/-- A node, or nothing in front of one of these tokens. -/
def nodeBefore (ends : List Token) (block indentless : Bool) : (fuel : Nat) → Compose Nat
  | 0 => malformed
  | fuel + 1 => do
    if ← startsWith ends then emptyNode else node block indentless fuel

def blockItems : (fuel : Nat) → Compose (List Nat)
  | 0 => malformed
  | fuel + 1 => do
    if ← accept .entry then
      let n ← nodeBefore [.entry, .blockEnd] true false fuel
      return n :: (← blockItems fuel)
    else
      expect .blockEnd
      return []

/-- The items of a list that ends with the key that it belongs to. -/
def openItems : (fuel : Nat) → Compose (List Nat)
  | 0 => malformed
  | fuel + 1 => do
    if ← accept .entry then
      let n ← nodeBefore [.entry, .key, .value, .blockEnd] true false fuel
      return n :: (← openItems fuel)
    else return []

def blockEntries : (fuel : Nat) → Compose (List (Nat × Nat))
  | 0 => malformed
  | fuel + 1 => do
    if ← accept .key then
      let ends := [.key, .value, .blockEnd]
      let k ← nodeBefore ends true true fuel
      let v ← valueBefore ends true fuel
      return (k, v) :: (← blockEntries fuel)
    else
      expect .blockEnd
      return []

/-- The value of a key, which may be missing. -/
def valueBefore (ends : List Token) (block : Bool) : (fuel : Nat) → Compose Nat
  | 0 => malformed
  | fuel + 1 => do
    if ← accept .value then nodeBefore ends block block fuel else emptyNode

/-- The items up to the closing bracket. A key among them makes a mapping with one entry. -/
def flowItems (first : Bool) : (fuel : Nat) → Compose (List Nat)
  | 0 => malformed
  | fuel + 1 => do
    if ← accept .flowListEnd then return []
    if !first then expect .comma
    if ← accept .flowListEnd then return []
    let n ← if ← accept .key then
        mapOf {} (do
          let k ← nodeBefore [.value, .comma, .flowListEnd] false false fuel
          let v ← valueBefore [.comma, .flowListEnd] false fuel
          return [(k, v)])
      else node false false fuel
    return n :: (← flowItems false fuel)

def flowEntries (first : Bool) : (fuel : Nat) → Compose (List (Nat × Nat))
  | 0 => malformed
  | fuel + 1 => do
    if ← accept .flowMapEnd then return []
    if !first then expect .comma
    if ← accept .flowMapEnd then return []
    let (k, v) ← if ← accept .key then
        let k ← nodeBefore [.value, .comma, .flowMapEnd] false false fuel
        let v ← valueBefore [.comma, .flowMapEnd] false fuel
        pure (k, v)
      else
        let k ← node false false fuel
        pure (k, ← emptyNode)
    return (k, v) :: (← flowEntries false fuel)

end

/-! ## Documents -/

/-- The directives in front of a document: at most one version, which must be the first major one, and
handles, each at most once. -/
def directives (version : Bool) (handles : List (String × String)) :
    (fuel : Nat) → Compose (List (String × String))
  | 0 => malformed
  | fuel + 1 => do
    match ← peek with
    | some (.directive (.version major)) =>
      if version || major ≠ 1 then malformed
      skip
      directives true handles fuel
    | some (.directive (.handle name start)) =>
      if (handles.lookup name).isSome then malformed
      skip
      directives version ((name, start) :: handles) fuel
    | some (.directive .other) =>
      skip
      directives version handles fuel
    | _ => return handles

/-- The marks after a document. -/
def skipEnds : (fuel : Nat) → Compose Unit
  | 0 => return
  | fuel + 1 => do
    if ← accept .documentEnd then skipEnds fuel

/-- The directives of a document and the dashes after them. -/
def documentStart (fuel : Nat) : Compose Unit := do
  let handles ← directives false [] fuel
  modify fun c => { c with handles := handles ++ usualHandles }
  expect .documentStart

/-- The root of the first document; without a document there is none. -/
def root (fuel : Nat) : Compose Nat := do
  match ← peek with
  | none => emptyNode
  | some (.directive _) | some .documentStart =>
    documentStart fuel
    match ← peek with
    | none | some (.directive _) | some .documentStart | some .documentEnd => emptyNode
    | _ => node true false fuel
  | _ => node true false fuel

/-- The root of the document, after which there is no other one. -/
def document (fuel : Nat) : Compose Nat := do
  let n ← root fuel
  skipEnds fuel
  if (← peek).isSome then
    documentStart fuel
    malformed
  return n

end Compose

/-- The root of a document and all its nodes. -/
def Graph.ofTokens (ts : Tokens) : Except Fault (Nat × Graph) := do
  let start : Composition := { left := ts, handles := usualHandles }
  let (n, c) ← (Compose.document (4 * ts.released.length + 8)).run start
  return (n, c.graph)

/-- A carriage return, with or without a line feed behind it, is a line feed. -/
def joinLineEnds : List Char → List Char
  | '\r' :: '\n' :: rest => '\n' :: joinLineEnds rest
  | '\r' :: rest => '\n' :: joinLineEnds rest
  | c :: rest => c :: joinLineEnds rest
  | [] => []

end EntityGen.Yaml
