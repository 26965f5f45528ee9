import EntityGen.Proofs.Yaml.Fault
import EntityGen.Yaml.Document

/-! Composing the nodes of a document. Brackets and blocks that the tokens open are closed again, and the
nodes are nested at most twice as deeply as those. -/

namespace EntityGen.Yaml

/-- How many brackets and blocks are open behind a token. -/
def Token.levelAfter (level : Nat) : Token → Nat
  | .blockList | .blockMap | .flowList | .flowMap => level + 1
  | .blockEnd | .flowListEnd | .flowMapEnd => level - 1
  | _ => level

/-- The most brackets and blocks that are open at once. -/
def deepest (level : Nat) : List Token → Nat
  | [] => level
  | t :: ts => max level (deepest (t.levelAfter level) ts)

/-- Why tokens are at fault although they keep the rules of the format. A list without an indentation of its
own and a mapping without braces have no brackets, but what is around them does. -/
inductive CompositionCause (ts : Tokens) : DataFault → Prop
  | token : ts.fault = some (.data fault) → CompositionCause ts fault
  | nesting : depthLimit < 2 * deepest 0 ts.released → CompositionCause ts .tooDeep

/-- A place between the tokens with so many open brackets and blocks, inside of so many containers. -/
structure Composition.IsAt (ts : Tokens) (level depth : Nat) (c : Composition) : Prop where
  fault : c.left.fault = ts.fault
  depth : c.depth = depth
  deepest : deepest level c.left.released ≤ deepest 0 ts.released

theorem le_deepest (level : Nat) (ts : List Token) : level ≤ deepest level ts := by
  cases ts with
  | nil => exact Nat.le_refl level
  | cons t ts => exact Nat.le_max_left _ _

namespace Compose

variable {ts : Tokens} {level level' depth depth' : Nat} {α β : Type} {x : Compose α} {t : Token}

/-- Composition goes from one place to another, or the tokens are at fault. -/
def Goes (ts : Tokens) (level depth : Nat) (x : Compose α) (level' : Nat) : Prop :=
  Leads (CompositionCause ts) (Composition.IsAt ts level depth) x fun _ => Composition.IsAt ts level' depth

theorem Goes.bind {f : α → Compose β} {level'' : Nat} (hx : Goes ts level depth x level')
    (hf : ∀ a, Goes ts level' depth (f a) level'') : Goes ts level depth (x >>= f) level'' :=
  Leads.bind hx hf

theorem Goes.pure (a : α) : Goes ts level depth (pure a : Compose α) level := Leads.pure fun _ h => h

theorem Goes.malformed : Goes ts level depth (malformed : Compose α) level' := Leads.malformed

/-- What is known of the next token. -/
theorem peek_leads : Leads (CompositionCause ts) (Composition.IsAt ts level depth) peek
    fun t c => c.IsAt ts level depth ∧ c.left.released.head? = t := by
  rintro ⟨⟨released, fault⟩, graph, handles, anchors, d⟩ h
  cases released with
  | cons t rest => exact ⟨h, rfl⟩
  | nil =>
    cases fault with
    | none => exact ⟨h, rfl⟩
    | some f =>
      refine Explained.error_iff.2 ?_
      rintro fault rfl
      exact .token h.fault.symm

theorem Goes.peek : Goes ts level depth peek level := peek_leads.mono (fun _ h => h) fun _ _ h => h.1

theorem skip_leads : Leads (CompositionCause ts)
    (fun c => c.IsAt ts level depth ∧ c.left.released.head? = some t) skip
    fun _ => Composition.IsAt ts (t.levelAfter level) depth := by
  rintro ⟨⟨released, fault⟩, graph, handles, anchors, d⟩ ⟨h, ht⟩
  cases released with
  | nil => cases ht
  | cons t' rest =>
    cases ht
    exact ⟨h.fault, h.depth, Nat.le_trans (Nat.le_max_right _ _) h.deepest⟩

theorem skip_bind {f : Unit → Compose α} (hf : ∀ u, Goes ts (t.levelAfter level) depth (f u) level') :
    Leads (CompositionCause ts) (fun c => c.IsAt ts level depth ∧ c.left.released.head? = some t)
      (skip >>= f) fun _ => Composition.IsAt ts level' depth := skip_leads.bind hf

/-- The next token does not matter. -/
theorem Goes.peeked {t : Option Token} (hx : Goes ts level depth x level') :
    Leads (CompositionCause ts) (fun c => c.IsAt ts level depth ∧ c.left.released.head? = t) x
      fun _ => Composition.IsAt ts level' depth := hx.mono (fun _ h => h.1) fun _ _ h => h

theorem accept_leads : Leads (CompositionCause ts) (Composition.IsAt ts level depth) (accept t)
    fun b => Composition.IsAt ts (if b then t.levelAfter level else level) depth := by
  refine peek_leads.bind fun u => ?_
  split
  · next ht =>
    subst ht
    exact skip_leads.bind fun _ => .pure fun _ h => h
  · exact .pure fun _ h => h.1

theorem Goes.accept {x y : Compose α} (hx : Goes ts (t.levelAfter level) depth x level')
    (hy : Goes ts level depth y level') : Goes ts level depth (do if ← accept t then x else y) level' := by
  refine accept_leads.bind fun b => ?_
  cases b with
  | false => exact hy
  | true => exact hx

theorem Goes.expect : Goes ts level depth (expect t) (t.levelAfter level) := by
  refine accept_leads.bind fun b => ?_
  cases b with
  | false => exact .malformed
  | true => exact Goes.pure ()

theorem Goes.startsWith (us : List Token) : Goes ts level depth (startsWith us) level :=
  .bind .peek fun _ => .pure _

/-! ## Nodes -/

theorem Goes.get : Goes ts level depth get level := Leads.get

theorem Goes.aliased (name : String) : Goes ts level depth (aliased name) level := by
  refine .bind .get fun c => ?_
  split
  · exact .pure _
  · exact .malformed

theorem Goes.expandTag (tag : Option String × String) : Goes ts level depth (expandTag tag) level := by
  unfold Compose.expandTag
  split
  · exact .pure _
  · refine .bind .get fun c => ?_
    split
    · exact .pure _
    · exact .malformed

theorem Goes.anchor? : Goes ts level depth anchor? level := by
  refine peek_leads.bind fun t => ?_
  split
  · exact skip_bind fun _ => .pure _
  · exact Goes.peeked (.pure _)

theorem Goes.tag? : Goes ts level depth tag? level := by
  refine peek_leads.bind fun t => ?_
  split
  · exact skip_bind fun _ => .pure _
  · exact Goes.peeked (.pure _)

theorem Goes.properties : Goes ts level depth properties level := by
  refine .bind .anchor? fun anchor => ?_
  cases anchor with
  | some name =>
    refine .bind .tag? fun tag => ?_
    cases tag with
    | none => exact .pure _
    | some tag => exact .bind (.bind (.expandTag tag) fun _ => .pure _) fun _ => .pure _
  | none =>
    refine .bind .tag? fun tag => ?_
    cases tag with
    | none => exact .pure _
    | some tag => exact .bind .anchor? fun _ => .bind (.expandTag tag) fun _ => .pure _

theorem Goes.add (p : Properties) (node : Node) : Goes ts level depth (add p node) level := by
  refine .get_bind fun c hc => ?_
  dsimp only
  split
  · exact .malformed
  · refine Leads.bind (.set ?_) fun _ => .pure fun _ h => h
    exact fun _ _ => ⟨hc.fault, hc.depth, hc.deepest⟩

theorem Goes.scalar (p : Properties) (plain : Bool) (codes : List Nat) :
    Goes ts level depth (scalar p plain codes) level := .add p _

theorem Goes.emptyNode : Goes ts level depth emptyNode level := .add {} _

theorem Goes.setBody (n : Nat) (body : Body) : Goes ts level depth (setBody n body) level :=
  Leads.modify fun _ h => ⟨h.fault, h.depth, h.deepest⟩

/-- There is a bracket or a block for every other container. -/
theorem Goes.inside {parts : Compose α} (hdepth : depth < 2 * level)
    (hparts : Goes ts level (depth + 1) parts level') : Goes ts level depth (inside parts) level' := by
  refine .get_bind fun c hc => ?_
  dsimp only
  rw [hc.depth]
  split
  · next hlimit =>
    -- the containers that are open are at most two for each bracket or block
    have hlevel := Nat.le_trans (le_deepest level c.left.released) hc.deepest
    exact .data fun _ _ => .nesting (by omega)
  · have henter : Leads (CompositionCause ts) (· = c) (modify fun c => { c with depth := depth + 1 })
        fun _ => Composition.IsAt ts level (depth + 1) := by
      refine .modify ?_
      rintro _ rfl
      exact ⟨hc.fault, rfl, hc.deepest⟩
    refine henter.bind fun _ => Leads.bind hparts fun a => ?_
    exact Leads.bind (.modify fun _ h => ⟨h.fault, rfl, h.deepest⟩) fun _ => .pure fun _ h => h

theorem Goes.listOf {p : Properties} {items : Compose (List Nat)} (hdepth : depth < 2 * level)
    (hitems : Goes ts level (depth + 1) items level') : Goes ts level depth (listOf p items) level' :=
  .bind (.add _ _) fun _ => .bind (.inside hdepth hitems) fun _ => .bind (.setBody _ _) fun _ => .pure _

theorem Goes.mapOf {p : Properties} {entries : Compose (List (Nat × Nat))} (hdepth : depth < 2 * level)
    (hentries : Goes ts level (depth + 1) entries level') : Goes ts level depth (mapOf p entries) level' :=
  .bind (.add _ _) fun _ => .bind (.inside hdepth hentries) fun _ => .bind (.setBody _ _) fun _ => .pure _

theorem Goes.emptyOr (p : Properties) : Goes ts level depth (emptyOr p) level := by
  unfold Compose.emptyOr
  split
  · exact .malformed
  · exact .scalar _ _ _

/-- A list without an indentation of its own is one more container than brackets and blocks tell. -/
def room (indentless : Bool) : Nat := if indentless then 1 else 0

/-- With so much fuel nodes leave as many brackets and blocks open as there are, and their parts close the
one that they stand in. -/
structure Nests (ts : Tokens) (fuel : Nat) : Prop where
  node {level depth : Nat} {block indentless : Bool} (h : depth + room indentless ≤ 2 * level) :
    Goes ts level depth (node block indentless fuel) level
  nodeBefore {level depth : Nat} {ends : List Token} {block indentless : Bool}
    (h : depth + room indentless ≤ 2 * level) : Goes ts level depth (nodeBefore ends block indentless fuel) level
  blockItems {level depth : Nat} (h : depth ≤ 2 * (level + 1)) :
    Goes ts (level + 1) depth (blockItems fuel) level
  openItems {level depth : Nat} (h : depth ≤ 2 * level) : Goes ts level depth (openItems fuel) level
  blockEntries {level depth : Nat} (h : depth + 1 ≤ 2 * (level + 1)) :
    Goes ts (level + 1) depth (blockEntries fuel) level
  valueBefore {level depth : Nat} {ends : List Token} {block : Bool} (h : depth + room block ≤ 2 * level) :
    Goes ts level depth (valueBefore ends block fuel) level
  flowItems {level depth : Nat} {first : Bool} (h : depth + 1 ≤ 2 * (level + 1)) :
    Goes ts (level + 1) depth (flowItems first fuel) level
  flowEntries {level depth : Nat} {first : Bool} (h : depth ≤ 2 * (level + 1)) :
    Goes ts (level + 1) depth (flowEntries first fuel) level

/-- Before anything but the first part there is a comma. -/
theorem Goes.separated {first : Bool} (hx : Goes ts level depth x level') :
    Goes ts level depth (if !first then (do Compose.expect .comma; x) else x) level' := by
  split
  · exact .bind .expect fun _ => hx
  · exact hx

namespace Nests

variable {fuel : Nat} {block indentless first : Bool} {ends : List Token}

theorem node_succ (n : Nests ts fuel) (h : depth + room indentless ≤ 2 * level) :
    Goes ts level depth (Compose.node block indentless (fuel + 1)) level := by
  have hopen : depth < 2 * (level + 1) := by omega
  have hroom : depth + 1 + 1 ≤ 2 * (level + 1) := by omega
  unfold Compose.node
  refine peek_leads.bind fun t => ?_
  split
  · exact skip_bind fun _ => .aliased _
  · refine Goes.peeked (.bind .properties fun p => peek_leads.bind fun t => ?_)
    split
    · exact skip_bind fun _ => .scalar _ _ _
    · exact skip_bind fun _ => .listOf hopen (@flowItems ts fuel n level _ _ hroom)
    · exact skip_bind fun _ => .mapOf hopen (@flowEntries ts fuel n level _ _ hopen)
    · split
      · next hindentless =>
        -- nothing opens this list, so it takes the room that is left for it
        subst hindentless
        exact Goes.peeked (.listOf h (n.openItems h))
      · exact Goes.peeked (.emptyOr p)
    · split
      · exact skip_bind fun _ => .listOf hopen (@blockItems ts fuel n level _ hopen)
      · exact Goes.peeked (.emptyOr p)
    · split
      · exact skip_bind fun _ => .mapOf hopen (@blockEntries ts fuel n level _ hroom)
      · exact Goes.peeked (.emptyOr p)
    · exact Goes.peeked (.emptyOr p)

theorem nodeBefore_succ (n : Nests ts fuel) (h : depth + room indentless ≤ 2 * level) :
    Goes ts level depth (Compose.nodeBefore ends block indentless (fuel + 1)) level := by
  refine .bind (.startsWith ends) fun _ => ?_
  split
  · exact .emptyNode
  · exact n.node h

theorem blockItems_succ (n : Nests ts fuel) (h : depth ≤ 2 * (level + 1)) :
    Goes ts (level + 1) depth (Compose.blockItems (fuel + 1)) level := by
  refine .accept ?_ (.bind .expect fun _ => .pure _)
  exact .bind (n.nodeBefore h) fun _ => .bind (n.blockItems h) fun _ => .pure _

theorem openItems_succ (n : Nests ts fuel) (h : depth ≤ 2 * level) :
    Goes ts level depth (Compose.openItems (fuel + 1)) level := by
  refine .accept ?_ (.pure _)
  exact .bind (n.nodeBefore h) fun _ => .bind (n.openItems h) fun _ => .pure _

theorem blockEntries_succ (n : Nests ts fuel) (h : depth + 1 ≤ 2 * (level + 1)) :
    Goes ts (level + 1) depth (Compose.blockEntries (fuel + 1)) level := by
  refine .accept ?_ (.bind .expect fun _ => .pure _)
  refine .bind (n.nodeBefore h) fun _ => .bind (n.valueBefore h) fun _ => ?_
  exact .bind (n.blockEntries h) fun _ => .pure _

theorem valueBefore_succ (n : Nests ts fuel) (h : depth + room block ≤ 2 * level) :
    Goes ts level depth (Compose.valueBefore ends block (fuel + 1)) level :=
  .accept (n.nodeBefore h) .emptyNode

theorem flowItems_succ (n : Nests ts fuel) (h : depth + 1 ≤ 2 * (level + 1)) :
    Goes ts (level + 1) depth (Compose.flowItems first (fuel + 1)) level := by
  refine .accept (.pure _) (.separated (.accept (.pure _) (.accept ?_ ?_)))
  · refine .bind (.mapOf h ?_) fun _ => .bind (n.flowItems h) fun _ => .pure _
    exact .bind (n.nodeBefore h) fun _ => .bind (n.valueBefore h) fun _ => .pure _
  · have hnode : depth + room false ≤ 2 * (level + 1) := Nat.le_of_succ_le h
    exact .bind (n.node hnode) fun _ => .bind (n.flowItems h) fun _ => .pure _

theorem flowEntries_succ (n : Nests ts fuel) (h : depth ≤ 2 * (level + 1)) :
    Goes ts (level + 1) depth (Compose.flowEntries first (fuel + 1)) level := by
  refine .accept (.pure _) (.separated (.accept (.pure _) (.accept ?_ ?_)))
  · refine .bind (n.nodeBefore h) fun _ => .bind (n.valueBefore h) fun _ => .bind (.pure _) fun _ => ?_
    exact .bind (n.flowEntries h) fun _ => .pure _
  · refine .bind (n.node h) fun _ => .bind .emptyNode fun _ => .bind (.pure _) fun _ => ?_
    exact .bind (n.flowEntries h) fun _ => .pure _

end Nests

/-- By induction on the fuel, all kinds of parts at once. -/
theorem nests (ts : Tokens) (fuel : Nat) : Nests ts fuel := by
  induction fuel with
  | zero => constructor <;> exact fun _ => .malformed
  | succ fuel n =>
    exact ⟨n.node_succ, n.nodeBefore_succ, n.blockItems_succ, n.openItems_succ, n.blockEntries_succ,
      n.valueBefore_succ, n.flowItems_succ, n.flowEntries_succ⟩

/-! ## Documents -/

theorem goes_directives {version : Bool} {handles : List (String × String)} (fuel : Nat) :
    Goes ts level depth (directives version handles fuel) level := by
  induction fuel generalizing version handles with
  | zero => exact .malformed
  | succ fuel ih =>
    unfold directives
    refine peek_leads.bind fun t => ?_
    split
    · dsimp only
      split
      · exact .malformed
      · exact skip_bind fun _ => ih
    · dsimp only
      split
      · exact .malformed
      · exact skip_bind fun _ => ih
    · exact skip_bind fun _ => ih
    · exact Goes.peeked (.pure _)

theorem goes_skipEnds (fuel : Nat) : Goes ts level depth (skipEnds fuel) level := by
  induction fuel with
  | zero => exact .pure _
  | succ fuel ih => exact .accept ih (.pure _)

theorem goes_documentStart (fuel : Nat) : Goes ts level depth (documentStart fuel) level := by
  refine .bind (goes_directives fuel) fun handles => ?_
  exact .bind (Leads.modify fun _ h => ⟨h.fault, h.depth, h.deepest⟩) fun _ => .expect

theorem goes_root (fuel : Nat) : Goes ts 0 0 (root fuel) 0 := by
  have hnode : Goes ts 0 0 (node true false fuel) 0 := (nests ts fuel).node (Nat.le_refl 0)
  refine .bind .peek fun t => ?_
  split
  case h_1 => exact .emptyNode
  case h_4 => exact hnode
  all_goals
    refine .bind (goes_documentStart fuel) fun _ => .bind .peek fun t => ?_
    split
    · exact .emptyNode
    · exact .emptyNode
    · exact .emptyNode
    · exact .emptyNode
    · exact hnode

theorem goes_document (fuel : Nat) : Goes ts 0 0 (document fuel) 0 := by
  refine .bind (goes_root fuel) fun n => .bind (goes_skipEnds fuel) fun _ => .bind .peek fun t => ?_
  dsimp only
  split
  · exact .bind (goes_documentStart fuel) fun _ => .malformed
  · exact .pure n

end Compose

theorem Graph.cause_of_ofTokens {ts : Tokens} {fault : DataFault} (h : Graph.ofTokens ts = .error (.data fault)) :
    CompositionCause ts fault := by
  have hdocument : Compose.Goes ts 0 0 (Compose.document (4 * ts.released.length + 8)) 0 := Compose.goes_document _
  have hstart := hdocument { left := ts, handles := usualHandles } ⟨rfl, rfl, Nat.le_refl _⟩
  have hread : Explained (CompositionCause ts) (fun _ => True) (Graph.ofTokens ts) :=
    hstart.bind fun _ _ => .ok trivial
  exact hread.cause_of_eq h

end EntityGen.Yaml
