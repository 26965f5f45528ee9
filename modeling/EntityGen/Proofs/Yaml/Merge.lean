import EntityGen.Proofs.Yaml.Fault
import EntityGen.Yaml.Merge

/-! What taking over entries leaves of a graph: mappings get other entries, and a key that marks what a
mapping stands for can become a text. -/

namespace EntityGen.Yaml

/-- What a node can become when mappings take over entries. -/
structure Node.Becomes (a b : Node) : Prop where
  tag : b.tag = a.tag ∨ a.tag = .value ∧ b.tag = .text
  scalar : ∀ codes, b.body = .scalar codes → a.body = .scalar codes
  map : (∃ es, b.body = .map es) ↔ ∃ es, a.body = .map es

theorem Node.Becomes.refl (a : Node) : a.Becomes a := ⟨.inl rfl, fun _ h => h, Iff.rfl⟩

theorem Node.Becomes.trans {a b c : Node} (h : a.Becomes b) (h' : b.Becomes c) : a.Becomes c where
  tag := by
    obtain hc | ⟨hb, hc⟩ := h'.tag
    · rw [hc]
      exact h.tag
    · obtain ha | ⟨_, ha⟩ := h.tag
      · exact .inr ⟨ha.symm.trans hb, hc⟩
      · rw [ha] at hb
        cases hb
  scalar codes hc := h.scalar codes (h'.scalar codes hc)
  map := h'.map.trans h.map

namespace Graph

variable {g g' g'' : Graph} {n m : Nat}

theorem isMap_iff : g.isMap n ↔ ∃ es, (g.node n).body = .map es := by
  unfold isMap
  cases (g.node n).body <;> simp

theorem node_modify {f : Node → Node} (g : Graph) (n m : Nat) :
    (⟨g.nodes.modify n f⟩ : Graph).node m = if n = m ∧ m < g.size then f (g.node m) else g.node m := by
  unfold node size
  rw [Array.getElem?_modify]
  by_cases hm : m < g.nodes.size <;> by_cases hn : n = m <;> simp [hm, hn]

/-- What a graph can become when mappings take over entries. -/
def Becomes (g g' : Graph) : Prop := ∀ n, (g.node n).Becomes (g'.node n)

theorem Becomes.refl (g : Graph) : g.Becomes g := fun _ => .refl _

theorem Becomes.trans (h : g.Becomes g') (h' : g'.Becomes g'') : g.Becomes g'' := fun n => (h n).trans (h' n)

theorem Becomes.isMap_iff (h : g.Becomes g') : g'.isMap n ↔ g.isMap n := by
  rw [Graph.isMap_iff, Graph.isMap_iff]
  exact (h n).map

theorem becomes_setBody {es : List (Nat × Nat)} (h : g.isMap n) : g.Becomes (g.setBody n (.map es)) := by
  intro m
  rw [setBody, node_modify]
  split
  · next hm =>
    obtain ⟨rfl, _⟩ := hm
    exact ⟨.inl rfl, nofun, iff_of_true ⟨es, rfl⟩ (Graph.isMap_iff.1 h)⟩
  · exact .refl _

theorem becomes_asKey (g : Graph) (n : Nat) : g.Becomes (g.asKey n) := by
  unfold asKey
  split
  · next h =>
    intro m
    rw [setTag, node_modify]
    split
    · next hm =>
      obtain ⟨rfl, _⟩ := hm
      exact ⟨.inr ⟨of_decide_eq_true h, rfl⟩, fun _ h => h, Iff.rfl⟩
    · exact .refl _
  · exact .refl g

theorem becomes_asKeys (es : List (Nat × Nat)) (g : Graph) :
    g.Becomes (es.foldl (fun g e => g.asKey e.1) g) := by
  induction es generalizing g with
  | nil => exact .refl g
  | cons e es ih => exact (becomes_asKey g e.1).trans (ih _)

theorem becomes_putTaken (taken : List (Nat × Nat)) (h : g.isMap n) : g.Becomes (g.putTaken n taken) := by
  have hkeys := becomes_asKeys (g.entries n) g
  exact hkeys.trans (becomes_setBody (hkeys.isMap_iff.2 h))

theorem isMap_of_mem_entries {e : Nat × Nat} (h : e ∈ g.entries n) : g.isMap n := by
  unfold entries at h
  unfold isMap
  split at h
  · rfl
  · cases h

theorem becomes_takeMerge? (h : g.takeMerge? n = some (m, g')) : g.Becomes g' ∧ g.isMap n := by
  unfold takeMerge? at h
  dsimp only at h
  split at h
  · next e he =>
    cases h
    have hmap := isMap_of_mem_entries (List.mem_of_find?_eq_some he)
    exact ⟨becomes_setBody hmap, hmap⟩
  · cases h

/-- Taking over is done or breaks a rule of the format. -/
theorem explained_mergeFrom {cause : DataFault → Prop} (fuel : Nat) (taken : List (Nat × Nat)) (h : g.isMap n) :
    Explained cause (g.Becomes ·) (mergeFrom fuel taken n g) := by
  induction fuel generalizing taken n g with
  | zero => exact .ok (.refl g)
  | succ fuel ih =>
    unfold mergeFrom
    split
    · exact .ok (becomes_putTaken taken h)
    · next source g₁ htake =>
      obtain ⟨htaken, hmap⟩ := becomes_takeMerge? htake
      -- what comes next takes over into the same mapping again
      have again {g₂ : Graph} (taken : List (Nat × Nat)) (h₂ : g₁.Becomes g₂) :
          Explained cause (g.Becomes ·) (mergeFrom fuel taken n g₂) := by
        have hg := htaken.trans h₂
        exact (ih taken (hg.isMap_iff.2 hmap)).mono fun _ h₃ => hg.trans h₃
      split
      · exact .malformed
      · next es hes =>
        exact (ih [] (Graph.isMap_iff.2 ⟨es, hes⟩)).bind fun _ h₂ => again _ h₂
      · have stays : ∀ r : List (List (Nat × Nat)) × Graph, ∀ item, g₁.Becomes r.2 →
            Explained cause (fun r => g₁.Becomes r.2) (if r.2.isMap item then do
              let g ← mergeFrom fuel [] item r.2
              return (g.entries item :: r.1, g)
            else throw .malformed) := by
          intro r item h₂
          split
          · next hitem => exact (ih [] hitem).bind fun _ h₃ => .ok (h₂.trans h₃)
          · exact .malformed
        exact (Explained.foldlM stays (.refl g₁)).bind fun _ h₂ => again _ h₂

theorem explained_merge {cause : DataFault → Prop} (limit : Nat) (h : g.isMap n) :
    Explained cause (g.Becomes ·) (g.merge limit n) := explained_mergeFrom _ [] h

end Graph
end EntityGen.Yaml
