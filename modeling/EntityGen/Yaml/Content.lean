import EntityGen.Value.SetOrder
import EntityGen.Yaml.Document
import EntityGen.Yaml.Merge

/-! The value of a document. Containers are made empty and filled later, level by level, so that a
container can be part of itself. -/

namespace EntityGen.Yaml

/-- What a node stands for. -/
inductive Part
  /-- A number that is none is different from all others, unless it was written as `.nan`: `origin` is
  its node. -/
  | value (v : Value) (origin : Option Nat)
  /-- The container that is made of a node. -/
  | container (n : Nat)

/-- A value that can be a key. -/
structure Key where
  value : Value
  origin : Option Nat

def Key.same (a b : Key) : Bool := a.value.sameKey b.value && a.origin = b.origin

/-- What is in a container. -/
inductive Content
  | list (parts : List Part)
  | pairs (parts : List (Part × Part))
  | map (entries : List (Key × Part))
  | set (keys : List Key)

/-- Binds a key. A key that is there keeps its place and its spelling. -/
def Content.bind (key : Key) (part : Part) : List (Key × Part) → List (Key × Part)
  | [] => [(key, part)]
  | (k, p) :: rest => if k.same key then (k, part) :: rest else (k, p) :: bind key part rest

/-- The parts that were made so far, the contents of containers, and the containers that are still
empty, the latest one first. -/
structure Making where
  graph : Graph
  mergeCount : Nat
  parts : Array (Option Part)
  contents : Array (Option Content)
  waiting : List Nat := []

abbrev Make := StateT Making (Except Fault)

namespace Make

/-- Numbers that are none are told apart by their nodes. -/
def originOf (n : Nat) (codes : List Nat) : Value → Option Nat
  | .double .nan => if afterSign (floatText (Text.charsOf codes)) = nanWord then none else some n
  | _ => none

def scalarPart (n : Nat) (tag : Tag) : Make Part := do
  let g := (← get).graph
  let codes ← g.text n
  match (g.node n).body, tag with
  | .scalar _, _ => pure ()
  | _, .timestamp => throw (.data .timestampInMapping)
  | _, _ => pure ()
  let v ← tag.scalarValue codes
  return .value v (originOf n codes v)

def newPart (n : Nat) : Make Part := do
  let tag := ((← get).graph.node n).tag
  match tag with
  | .list | .pairs | .map | .set =>
    modify fun m => { m with waiting := n :: m.waiting }
    return .container n
  | .merge | .value | .unknown _ => throw .malformed
  | tag => scalarPart n tag

/-- A node stands for one and the same thing wherever it is. -/
def part (n : Nat) : Make Part := do
  match (← get).parts[n]? with
  | some (some p) => return p
  | _ =>
    let p ← newPart n
    modify fun m => { m with parts := m.parts.setIfInBounds n (some p) }
    return p

/-- A container is no key. -/
def key (n : Nat) : Make Key := do
  match ← part n with
  | .value value origin => return { value, origin }
  | .container _ => throw .malformed

/-- The entries of a mapping with those that it takes over. The last entry of a key counts. -/
def entries (n : Nat) : Make (List (Key × Part)) := do
  if !(← get).graph.isMap n then throw .malformed
  let m ← get
  let graph ← m.graph.merge m.mergeCount n
  set { m with graph }
  (graph.entries n).foldlM (fun bound e => do
    let k ← key e.1
    let p ← part e.2
    return Content.bind k p bound) []

def items (n : Nat) : Make (List Nat) := do
  match ((← get).graph.node n).body with
  | .list items => return items
  | _ => throw .malformed

/-- A mapping with one entry stands for a pair. -/
def pair (n : Nat) : Make (Part × Part) := do
  match (← get).graph.entries n with
  | [e] => return (← part e.1, ← part e.2)
  | _ => throw .malformed

def content (n : Nat) : Make Content := do
  match ((← get).graph.node n).tag with
  | .set => return .set ((← entries n).map (·.1))
  | .map => return .map (← entries n)
  | .pairs => return .pairs (← (← items n).mapM pair)
  | _ => return .list (← (← items n).mapM part)

def fill (n : Nat) : Make Unit := do
  let c ← content n
  modify fun m => { m with contents := m.contents.setIfInBounds n (some c) }

/-- Fills the containers that are empty, and then those that this has brought about. -/
def fillAll : (fuel : Nat) → Make Unit
  | 0 => return
  | fuel + 1 => do
    let round := (← get).waiting.reverse
    if round.isEmpty then return
    modify fun m => { m with waiting := [] }
    round.forM fill
    fillAll fuel

end Make

/-! ## Values of containers -/

/-- A value, the containers around it that it leads back to, and the knots in it. -/
structure Tied where
  value : Value
  free : List Nat := []
  knots : List Nat := []

namespace Making

def isMap (m : Making) (n : Nat) : Bool :=
  match m.contents[n]? with
  | some (some (.map _)) => true
  | _ => false

/-- The containers that do not lead out of themselves have the same value everywhere. -/
abbrev Tie := StateM (Array (Option Tied))

/-- A container that leads back to itself, or to one around it, is a knot. -/
def close (n : Nat) (whole : Value) (parts : List Tied) : Tie Tied := do
  let found := (parts.flatMap (·.free)).eraseDups
  let knots := (parts.flatMap (·.knots)).eraseDups
  let t : Tied :=
    if found.isEmpty && !knots.contains n then { value := whole, knots }
    else { value := .knot n whole, free := found.filter (· ≠ n), knots := n :: knots.filter (· ≠ n) }
  if t.free.isEmpty then modify fun known => known.setIfInBounds n (some t)
  return t

/-- The value of a part inside of some containers. -/
def tie (m : Making) : (fuel : Nat) → (outer : List Nat) → Part → Tie Tied
  | _, _, .value value _ => return { value }
  | 0, _, .container _ => return { value := .null }
  | fuel + 1, outer, .container n => do
    if outer.contains n then return { value := .around n (m.isMap n), free := [n] }
    match (← get)[n]? with
    | some (some t) => return t
    | _ =>
      let inside := m.tie fuel (n :: outer)
      match m.contents[n]? with
      | some (some (.list parts)) =>
        let ts ← parts.mapM inside
        close n (.list (ts.map (·.value))) ts
      | some (some (.pairs parts)) =>
        let ts ← parts.mapM fun p => return (← inside p.1, ← inside p.2)
        close n (.list (ts.map fun t => .pair t.1.value t.2.value)) (ts.flatMap fun t => [t.1, t.2])
      | some (some (.map es)) =>
        let ts ← es.mapM fun e => return (e.1.value, ← inside e.2)
        close n (.map (ts.map fun t => (t.1, t.2.value))) (ts.map (·.2))
      | some (some (.set keys)) => return { value := .set (Value.listed (keys.map (·.value))) }
      | _ => return { value := .null }

end Making

/-- The value of a node. -/
def Graph.value (g : Graph) (n : Nat) : Except Fault Value := do
  let start : Making := {
    graph := g
    mergeCount := g.mergeCount
    parts := Array.replicate g.size none
    contents := Array.replicate g.size none }
  let make : Make Part := do
    let p ← Make.part n
    Make.fillAll (g.size + 1)
    return p
  let (p, m) ← make.run start
  let (t, _) := (m.tie (g.size + 1) [] p).run (Array.replicate g.size none)
  return t.value

/-- The value of a document. -/
def read (s : String) : Except Fault Value := do
  let (root, g) ← Graph.ofTokens (Tokens.ofText (joinLineEnds s.toList))
  g.value root

end EntityGen.Yaml
