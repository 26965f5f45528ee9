import EntityGen.Yaml.Node

/-! Entries that a mapping takes over from others. -/

namespace EntityGen.Yaml.Graph

def isMerge (g : Graph) (e : Nat × Nat) : Bool := g.isTagged .merge e.1

/-- How many entries name mappings to take over from. -/
def mergeCount (g : Graph) : Nat :=
  g.nodes.foldl (fun count node =>
    match node.body with
    | .map es => count + es.countP g.isMerge
    | _ => count) 0

/-- Takes the first entry that names mappings out of a mapping. -/
def takeMerge? (g : Graph) (n : Nat) : Option (Nat × Graph) :=
  let es := g.entries n
  match es.find? g.isMerge with
  | some e => some (e.2, g.setBody n (.map (es.eraseP g.isMerge)))
  | none => none

/-- An equals sign, which may mark what a mapping stands for, is a text as a key. -/
def asKey (g : Graph) (n : Nat) : Graph := if g.isTagged .value n then g.setTag n .text else g

/-- Puts what was taken over in front of a mapping's own entries. -/
def putTaken (g : Graph) (n : Nat) (taken : List (Nat × Nat)) : Graph :=
  let own := g.entries n
  (own.foldl (fun g e => g.asKey e.1) g).setBody n (.map (taken ++ own))

/-- Takes over entries until no entry of a mapping names others. Those others take over first, also when
they are the mapping itself or one around it. The last mapping of a list comes first. -/
def mergeFrom : (fuel : Nat) → (taken : List (Nat × Nat)) → Nat → Graph → Except Fault Graph
  | 0, _, _, g => .ok g
  | fuel + 1, taken, n, g =>
    match g.takeMerge? n with
    | none => .ok (g.putTaken n taken)
    | some (source, g) =>
      match (g.node source).body with
      | .scalar _ => .error .malformed
      | .map _ => do
        let g ← mergeFrom fuel [] source g
        mergeFrom fuel (taken ++ g.entries source) n g
      | .list items => do
        let (lists, g) ← items.foldlM (fun (lists, g) item => do
          if g.isMap item then
            let g ← mergeFrom fuel [] item g
            return (g.entries item :: lists, g)
          else throw .malformed) ([], g)
        mergeFrom fuel (taken ++ lists.flatten) n g

/-- Each step takes an entry away that names others, so that `limit`, the number of all of them, is
enough. -/
def merge (limit n : Nat) (g : Graph) : Except Fault Graph := mergeFrom (limit + 1) [] n g

end EntityGen.Yaml.Graph
