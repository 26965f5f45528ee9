import EntityGen.Proofs.Yaml.Merge
import EntityGen.Yaml.Content

/-! Making the value of a document from its nodes. -/

namespace EntityGen.Yaml

def containerTags : List Tag := [.list, .pairs, .map, .set]

/-- A text that a node can stand for: its own, or if it is a mapping that of any scalar. -/
def Graph.CanMean (g : Graph) (n : Nat) (codes : List Nat) : Prop :=
  (g.node n).body = .scalar codes ∨ g.isMap n ∧ ∃ m, (g.node m).body = .scalar codes

/-- Why the nodes of a graph are at fault although they keep the rules of the format. -/
inductive ContentCause (g : Graph) : DataFault → Prop
  /-- There is no value of the kind of a node with its text. -/
  | noValue : g.CanMean n codes → (g.node n).tag.scalarValue codes = .error (.data fault) → ContentCause g fault
  | timestampInMapping : g.isMap n → (g.node n).tag = .timestamp → ContentCause g .timestampInMapping
  /-- A mapping is tagged as no container, so it has to stand for a text. -/
  | endlessText : g.isMap n → (g.node n).tag ∉ containerTags → ContentCause g .endlessText

namespace Graph

variable {g : Graph} {n : Nat}

theorem explained_textFrom (fuel : Nat) (g : Graph) (n : Nat) :
    Explained (· = .endlessText) (fun codes => ∃ m, (g.node m).body = .scalar codes) (textFrom fuel g n) := by
  induction fuel generalizing n with
  | zero => exact .data rfl
  | succ fuel ih =>
    unfold textFrom
    split
    · next codes h => exact .ok ⟨n, h⟩
    · exact .malformed
    · split
      · exact ih _
      · exact .malformed

theorem explained_text (g : Graph) (n : Nat) :
    Explained (fun fault => fault = .endlessText ∧ g.isMap n) (g.CanMean n) (g.text n) := by
  unfold text textFrom
  split
  · next codes h => exact .ok (.inl h)
  · exact .malformed
  · next es h =>
    have hmap : g.isMap n := isMap_iff.2 ⟨es, h⟩
    split
    · next e _ =>
      have htext := explained_textFrom g.size g e.2
      exact (htext.imp fun _ hf => ⟨hf, hmap⟩).mono fun _ hm => .inr ⟨hmap, hm⟩
    · exact .malformed

namespace Becomes

variable {g' : Graph} {codes : List Nat}

theorem canMean (h : g.Becomes g') (hcodes : g'.CanMean n codes) : g.CanMean n codes := by
  rcases hcodes with hbody | ⟨hmap, m, hbody⟩
  · exact .inl ((h n).scalar _ hbody)
  · exact .inr ⟨h.isMap_iff.1 hmap, m, (h m).scalar _ hbody⟩

theorem explained_text (h : g.Becomes g') (htag : (g'.node n).tag ∉ containerTags) :
    Explained (ContentCause g) (g'.CanMean n) (g'.text n) := by
  refine (g'.explained_text n).imp ?_
  rintro _ ⟨rfl, hmap⟩
  refine .endlessText (h.isMap_iff.1 hmap) ?_
  obtain h | ⟨h, -⟩ := (h n).tag
  · rwa [← h]
  · rw [h]
    decide

/-- A key that became a text has a value. -/
theorem explained_scalarValue (h : g.Becomes g') (hcodes : g'.CanMean n codes) :
    Explained (ContentCause g) (fun _ => True) ((g'.node n).tag.scalarValue codes) := by
  obtain htag | ⟨-, htag⟩ := (h n).tag
  · rw [htag]
    cases hvalue : (g.node n).tag.scalarValue codes with
    | ok v => trivial
    | error f =>
      refine Explained.error_iff.2 ?_
      rintro fault rfl
      exact .noValue (h.canMean hcodes) hvalue
  · rw [htag]
    trivial

end Becomes
end Graph

namespace Make

variable {α β : Type} {g : Graph} {x : Make α} {n : Nat}

/-- Whatever is made, the graph becomes no other one than by taking over entries. -/
def Makes (g : Graph) (x : Make α) : Prop :=
  Leads (ContentCause g) (fun m => g.Becomes m.graph) x fun _ m => g.Becomes m.graph

theorem Makes.bind {f : α → Make β} (hx : Makes g x) (hf : ∀ a, Makes g (f a)) : Makes g (x >>= f) :=
  Leads.bind hx hf

theorem Makes.pure (a : α) : Makes g (pure a : Make α) := Leads.pure fun _ h => h

theorem Makes.malformed : Makes g (throw .malformed : Make α) := Leads.malformed

theorem Makes.modify {f : Making → Making} (h : ∀ m, (f m).graph = m.graph) : Makes g (modify f) :=
  Leads.modify fun m hm => (h m).symm ▸ hm

/-- What follows on looking at the state sees a graph that has become of the first one. -/
theorem Makes.get_bind {f : Making → Make α}
    (hf : ∀ m : Making, g.Becomes m.graph → Leads (ContentCause g) (· = m) (f m) fun _ m => g.Becomes m.graph) :
    Makes g (get >>= f) := Leads.get_bind hf

/-- The graph is all that matters of a state. -/
theorem Makes.at {m : Making} (hx : Makes g x) (hm : g.Becomes m.graph) :
    Leads (ContentCause g) (· = m) x fun _ m => g.Becomes m.graph :=
  hx.mono (fun _ h => h ▸ hm) fun _ _ h => h

/-- Making the text of a node of a graph with a tag that is no container. -/
theorem makes_scalarPart {m : Making} (hm : g.Becomes m.graph) (htag : (m.graph.node n).tag ∉ containerTags) :
    Leads (ContentCause g) (· = m) (scalarPart n (m.graph.node n).tag) fun _ m => g.Becomes m.graph := by
  refine Leads.get_bind fun m' h => ?_
  subst h
  refine .lift_bind (hm.explained_text htag) fun codes hcodes => ?_
  have hvalue : Leads (ContentCause g) (· = m') (do
      let v ← liftM ((m'.graph.node n).tag.scalarValue codes)
      return Part.value v (originOf n codes v)) fun _ m => g.Becomes m.graph := by
    refine .lift_bind (hm.explained_scalarValue hcodes) fun v _ => ?_
    exact .pure fun _ h => h ▸ hm
  dsimp only
  split
  · exact hvalue
  · next htimestamp hbody =>
    -- the text is not that of the node itself
    have hmap : m'.graph.isMap n := hcodes.elim (fun h => absurd h (hbody codes)) And.left
    refine .data fun _ _ => .timestampInMapping (hm.isMap_iff.1 hmap) ?_
    obtain h | ⟨-, h⟩ := (hm n).tag
    · exact h.symm.trans htimestamp
    · rw [htimestamp] at h
      cases h
  · exact hvalue

theorem makes_newPart (n : Nat) : Makes g (newPart n) := by
  refine .get_bind fun m hm => ?_
  have container : Makes g (do
      modify fun m => { m with waiting := n :: m.waiting }
      return Part.container n) :=
    .bind (.modify fun _ => rfl) fun _ => .pure _
  dsimp only
  split
  · exact container.at hm
  · exact container.at hm
  · exact container.at hm
  · exact container.at hm
  · exact .malformed
  · exact .malformed
  · exact .malformed
  · next hlist hpairs hmap hset _ _ _ =>
    refine makes_scalarPart hm ?_
    simp only [containerTags, List.mem_cons, List.not_mem_nil, or_false, not_or]
    exact ⟨hlist, hpairs, hmap, hset⟩

theorem makes_part (n : Nat) : Makes g (part n) := by
  refine .get_bind fun m hm => ?_
  split
  · exact .pure fun _ h => h ▸ hm
  · refine Makes.at ?_ hm
    exact .bind (makes_newPart n) fun _ => .bind (.modify fun _ => rfl) fun _ => .pure _

theorem makes_key (n : Nat) : Makes g (key n) := by
  refine .bind (makes_part n) fun p => ?_
  cases p with
  | value v origin => exact .pure _
  | container n => exact .malformed

theorem makes_entries (n : Nat) : Makes g (entries n) := by
  refine .get_bind fun m hm => ?_
  dsimp only
  split
  · exact .malformed
  · next hmap =>
    rw [Bool.not_eq_true, Bool.not_eq_false'] at hmap
    refine Leads.get_bind fun m' h => ?_
    subst h
    refine .lift_bind (Graph.explained_merge m'.mergeCount hmap) fun graph hgraph => ?_
    refine Leads.bind (.set fun _ _ => hm.trans hgraph) fun _ => .foldlM (fun bound e _ => ?_) _
    exact Makes.bind (makes_key e.1) fun _ => .bind (makes_part e.2) fun _ => .pure _

theorem makes_items (n : Nat) : Makes g (items n) := by
  refine .get_bind fun m hm => ?_
  split
  · exact .pure fun _ h => h ▸ hm
  · exact .malformed

theorem makes_pair (n : Nat) : Makes g (pair n) := by
  refine .get_bind fun m hm => ?_
  split
  · exact Makes.at (.bind (makes_part _) fun _ => .bind (makes_part _) fun _ => .pure _) hm
  · exact .malformed

theorem makes_content (n : Nat) : Makes g (content n) := by
  refine .get_bind fun m hm => Makes.at ?_ hm
  split
  · exact .bind (makes_entries n) fun _ => .pure _
  · exact .bind (makes_entries n) fun _ => .pure _
  · refine .bind (makes_items n) fun ns => .bind (.mapM fun n _ => makes_pair n) fun _ => .pure _
  · refine .bind (makes_items n) fun ns => .bind (.mapM fun n _ => makes_part n) fun _ => .pure _

theorem makes_fill (n : Nat) : Makes g (fill n) :=
  .bind (makes_content n) fun _ => .modify fun _ => rfl

/-- By induction on the fuel: a round fills containers, and so do those after it. -/
theorem makes_fillAll (fuel : Nat) : Makes g (fillAll fuel) := by
  induction fuel with
  | zero => exact .pure _
  | succ fuel ih =>
    refine .get_bind fun m hm => Makes.at ?_ hm
    dsimp only
    split
    · exact .pure _
    · exact .bind (.modify fun _ => rfl) fun _ => .bind (.forM fun n _ => makes_fill n) fun _ => ih

end Make

theorem Graph.cause_of_value {g : Graph} {n : Nat} {fault : DataFault} (h : g.value n = .error (.data fault)) :
    ContentCause g fault := by
  have hmake : Make.Makes g (do
      let p ← Make.part n
      Make.fillAll (g.size + 1)
      return p) :=
    .bind (Make.makes_part n) fun p => .bind (Make.makes_fillAll _) fun _ => .pure p
  have hvalue : Explained (ContentCause g) (fun _ => True) (g.value n) :=
    (hmake _ (.refl g)).bind fun _ _ => .ok trivial
  exact hvalue.cause_of_eq h

end EntityGen.Yaml
