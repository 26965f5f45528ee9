import EntityGen.Yaml.ScalarValue

/-! The nodes of a document. They are told apart by their numbers, because a node can be part of several
others, and of itself. -/

namespace EntityGen.Yaml

inductive Body
  | scalar (codes : List Nat)
  | list (items : List Nat)
  | map (entries : List (Nat × Nat))

structure Node where
  tag : Tag
  body : Body

/-- A number stands for the node that was put there as the first, second and so on. -/
structure Graph where
  nodes : Array Node := #[]

namespace Graph

/-- A node that is not there is an empty text. -/
def node (g : Graph) (n : Nat) : Node := g.nodes[n]?.getD ⟨.text, .scalar []⟩

def size (g : Graph) : Nat := g.nodes.size

/-- Puts a node into the graph, under the next number. -/
def add (g : Graph) (node : Node) : Nat × Graph := (g.size, ⟨g.nodes.push node⟩)

def setTag (g : Graph) (n : Nat) (tag : Tag) : Graph := ⟨g.nodes.modify n fun node => { node with tag }⟩

def setBody (g : Graph) (n : Nat) (body : Body) : Graph := ⟨g.nodes.modify n fun node => { node with body }⟩

/-- The entries of a mapping, of which other nodes have none. -/
def entries (g : Graph) (n : Nat) : List (Nat × Nat) :=
  match (g.node n).body with
  | .map es => es
  | _ => []

def isMap (g : Graph) (n : Nat) : Bool :=
  match (g.node n).body with
  | .map _ => true
  | _ => false

def isTagged (g : Graph) (tag : Tag) (n : Nat) : Bool := (g.node n).tag = tag

/-- The text of a scalar, or of what a mapping stands for. -/
def textFrom : (fuel : Nat) → Graph → Nat → Except Fault (List Nat)
  | 0, _, _ => .error (.data .endlessText)
  | fuel + 1, g, n =>
    match (g.node n).body with
    | .scalar codes => .ok codes
    | .list _ => .error .malformed
    | .map es =>
      match es.find? fun e => g.isTagged .value e.1 with
      | some e => textFrom fuel g e.2
      | none => .error .malformed

/-- A way through more nodes than there are comes to one of them twice, and has no end. -/
def text (g : Graph) (n : Nat) : Except Fault (List Nat) := textFrom (g.size + 1) g n

end Graph
end EntityGen.Yaml
