import EntityGen.Proofs.Yaml.Content
import EntityGen.Proofs.Yaml.Document
import EntityGen.Proofs.Yaml.ScalarValue
import EntityGen.Proofs.Yaml.Token

/-! Why a text has no value although it keeps the rules of the format. -/

namespace EntityGen.Yaml

/-- The causes of a fault in the three stages of reading: characters, tokens and nodes. -/
inductive Cause (text : List Char) : DataFault → Prop
  | characters : LexicalCause text fault → Cause text fault
  | nesting : depthLimit < 2 * deepest 0 (Tokens.ofText text).released → Cause text .tooDeep
  | nodes : Graph.ofTokens (Tokens.ofText text) = .ok (root, g) → ContentCause g fault → Cause text fault

variable {s : String} {text : List Char} {fault : DataFault}

theorem cause_of_read (h : read s = .error (.data fault)) : Cause (joinLineEnds s.toList) fault := by
  unfold read at h
  generalize joinLineEnds s.toList = text at h ⊢
  cases hgraph : Graph.ofTokens (Tokens.ofText text) with
  | ok r =>
    rw [hgraph] at h
    exact .nodes hgraph (Graph.cause_of_value h)
  | error f =>
    rw [hgraph] at h
    cases h
    cases Graph.cause_of_ofTokens hgraph with
    | token h => exact .characters (Tokens.cause_of_ofText h)
    | nesting h => exact .nesting h

/-- A text without anything that could be at fault. -/
structure IsSafe (text : List Char) : Prop where
  escapes : ∀ n, HasLongEscape text n → n < 0x110000
  digits : ∀ digits, digits <:+: text → digits.all Char.isDigit → digits.length ≤ Number.digitLimit
  nesting : 2 * deepest 0 (Tokens.ofText text).released ≤ depthLimit
  nodes : ∀ root g, Graph.ofTokens (Tokens.ofText text) = .ok (root, g) →
    ∀ n, (g.node n).tag.faults = [] ∧ (g.isMap n → (g.node n).tag ∈ containerTags)

theorem IsSafe.not_lexicalCause (h : IsSafe text) : ¬LexicalCause text fault := by
  intro hcause
  cases hcause with
  | noCode hescape hlarge => exact Nat.not_lt.2 hlarge (h.escapes _ hescape)
  | largeCode hescape hlarge => exact Nat.not_lt.2 (Nat.le_trans (by decide) hlarge) (h.escapes _ hescape)
  | version hdigits hall hlong => exact Nat.not_lt.2 (h.digits _ hdigits hall) hlong

theorem IsSafe.not_contentCause {root : Nat} {g : Graph} (h : IsSafe text)
    (hgraph : Graph.ofTokens (Tokens.ofText text) = .ok (root, g)) : ¬ContentCause g fault := by
  intro hcause
  cases hcause with
  | @noValue n _ _ _ hvalue =>
    have hfault := Tag.mem_faults_of_scalarValue hvalue
    rw [(h.nodes _ _ hgraph n).1] at hfault
    cases hfault
  | @timestampInMapping n hmap htag =>
    have hcontainer := (h.nodes _ _ hgraph n).2 hmap
    rw [htag] at hcontainer
    exact absurd hcontainer (by decide)
  | @endlessText n hmap htag => exact htag ((h.nodes _ _ hgraph n).2 hmap)

theorem IsSafe.not_cause (h : IsSafe text) : ¬Cause text fault := by
  intro hcause
  cases hcause with
  | characters hcause => exact h.not_lexicalCause hcause
  | nesting hdeep => exact Nat.not_lt.2 h.nesting hdeep
  | nodes hgraph hcause => exact h.not_contentCause hgraph hcause

/-- Safe texts have a value or break a rule of the format. -/
theorem IsSafe.read_ne (h : IsSafe (joinLineEnds s.toList)) : read s ≠ .error (.data fault) :=
  fun hread => h.not_cause (cause_of_read hread)

end EntityGen.Yaml
