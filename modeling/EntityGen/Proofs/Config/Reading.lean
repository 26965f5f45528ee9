import EntityGen.Config.Read
import EntityGen.Proofs.Config.Completion

/-! Completing a configuration that was read from a mapping. -/

namespace EntityGen

theorem readText_ne {field : String} {v : Value} {o : Option String} (h : readText field v = .ok o) : o ≠ some "" := by
  unfold readText at h
  split at h
  · cases h
    exact nofun
  · split at h
    · next s _ =>
      cases h
      by_cases hs : s = ""
      · subst hs
        exact nofun
      · rw [Config.given_some hs]
        exact fun he => hs (Option.some.inj he)
    · cases h

namespace Config

variable {c r : Config} {entries : List (Value × Value)} {base : Option Path}

/-- None of the texts that could be filled in is empty. -/
structure HasTexts (c : Config) : Prop where
  «namespace» : c.namespace ≠ some ""
  modelsNamespace : c.modelsNamespace ≠ some ""
  contextNamespace : c.contextNamespace ≠ some ""
  contextName : c.contextName ≠ some ""

theorem hasTexts_of_read (h : ofEntries entries base = .ok c) : c.HasTexts := by
  simp only [ofEntries, bind_eq_ok_iff] at h
  obtain ⟨_, -, _, -, _, -, _, -, ns, hns, models, hmodels, context, hcontext, name, hname, h⟩ := h
  obtain ⟨_, -, _, -, _, -, _, -, _, -, _, -, _, -, _, -, _, -, _, -, h⟩ := h
  cases h
  exact ⟨readText_ne hns, readText_ne hmodels, readText_ne hcontext, readText_ne hname⟩

/-- Something that nothing stands in for is missing: where the models go, their namespace, or, if there is to be a
context, its namespace or its place. -/
def Lacks (c : Config) : Prop :=
  c.modelsFolder = none ∨ (c.modelsNamespace = none ∧ c.namespace = none) ∨
    (c.createContext = true ∧
      ((c.contextNamespace = none ∧ c.namespace = none) ∨ (c.contextFile = none ∧ c.contextFolder = none)))

theorem given_of_ne {o : Option String} (h : o ≠ some "") : given o = o := by
  cases o with
  | none => rfl
  | some s => exact given_some fun hs => h (hs ▸ rfl)

theorem isSome_or_iff {α : Type} {a b : Option α} : (a.or b).isSome ↔ ¬(a = none ∧ b = none) := by
  cases a <;> cases b <;> simp

theorem exists_complete_iff_not_lacks (h : c.HasTexts) : (∃ r, c.complete = .ok r) ↔ ¬c.Lacks := by
  have hnames : c.NamesContext ↔
      ¬(c.contextNamespace = none ∧ c.namespace = none) ∧ ¬(c.contextFile = none ∧ c.contextFolder = none) := by
    rw [← isSome_or_iff, ← isSome_or_iff, ← given_of_ne h.contextNamespace, ← given_of_ne h.namespace]
    exact ⟨fun hn => ⟨hn.named, hn.placed⟩, fun hn => ⟨hn.1, hn.2⟩⟩
  rw [exists_complete_iff, firstGiven, given_of_ne h.modelsNamespace, given_of_ne h.namespace, isSome_or_iff, hnames,
    Lacks, Option.isSome_iff_ne_none]
  tauto

/-- What is set stays as it is, apart from the folder of the context. -/
structure Keeps (c r : Config) : Prop where
  modelsNamespace : ∀ s ∈ c.modelsNamespace, s ∈ r.modelsNamespace
  contextNamespace : ∀ s ∈ c.contextNamespace, s ∈ r.contextNamespace
  contextName : ∀ s ∈ c.contextName, s ∈ r.contextName
  contextFile : ∀ file ∈ c.contextFile, file ∈ r.contextFile
  /-- Nothing else is ever filled in. -/
  rest : r = { c with
    modelsNamespace := r.modelsNamespace
    contextNamespace := r.contextNamespace
    contextName := r.contextName
    contextFile := r.contextFile
    contextFolder := r.contextFolder }

theorem keeps_of_complete (ht : c.HasTexts) (h : c.complete = .ok r) : c.Keeps r := by
  obtain ⟨_, _, models, hmodels, rfl⟩ := complete_eq_ok_iff.1 h
  rw [firstGiven, given_of_ne ht.modelsNamespace, given_of_ne ht.namespace] at hmodels
  constructor
  case modelsNamespace =>
    intro s hs
    rw [Option.mem_def] at hs
    rw [hs, Option.some_or] at hmodels
    exact hmodels.symm
  case contextNamespace =>
    intro s hs
    rw [Option.mem_def] at hs
    have hne : s ≠ "" := by
      rintro rfl
      exact ht.contextNamespace hs
    simp [filled, hs, Option.filter, hne]
  case contextName =>
    intro s hs
    rw [Option.mem_def, ← given_of_ne ht.contextName] at hs
    simp [filled, hs]
  case contextFile =>
    intro file hfile
    rw [Option.mem_def] at hfile
    simp [filled, contextFileOf, hfile]
  case rest => rfl

/-- A configuration that was read from a mapping can be completed unless it lacks something, and then it is to
blame itself. Completing keeps what is set, changes nothing when it is done a second time, and comes to the same
before and after switches are thrown. -/
theorem complete_of_read (h : ofEntries entries base = .ok c) :
    ((∃ f, f.isConfiguration = true ∧ c.complete = .error f) ↔ c.Lacks) ∧ ((∃ r, c.complete = .ok r) ↔ ¬c.Lacks) ∧
    ∀ r, c.complete = .ok r →
      r.complete = .ok r ∧ c.Keeps r ∧ ∀ o : Overrides, (c.override o).complete = .ok (r.override o) := by
  have ht := hasTexts_of_read h
  have hlacks := exists_complete_iff_not_lacks ht
  refine ⟨⟨?_, fun hl => ?_⟩, hlacks, fun r hr => ⟨complete_complete hr, keeps_of_complete ht hr, complete_override hr⟩⟩
  · rintro ⟨f, -, hf⟩
    by_contra hl
    obtain ⟨r, hr⟩ := hlacks.2 hl
    cases hf.symm.trans hr
  · cases hc : c.complete with
    | ok r => exact absurd hl (hlacks.1 ⟨r, hc⟩)
    | error f =>
      obtain ⟨field, fault, rfl⟩ := exists_fault_of_complete hc
      exact ⟨_, rfl, rfl⟩

/-- The place of the context follows from its name. -/
def namedEntries : List (Value × Value) :=
  [(.text "models_folder", .text "m"), (.text "namespace", .text "N"), (.text "context_namespace", .text "N.Data"),
    (.text "context_folder", .text "d/e"), (.text "context_name", .text "../C")]

def named : Config where
  modelsFolder := some ⟨0, ["m"]⟩
  contextFolder := some ⟨0, ["d", "e"]⟩
  «namespace» := some "N"
  contextNamespace := some "N.Data"
  contextName := some "../C"

def completedNamed : Config := { named with
  modelsNamespace := some "N"
  contextFile := some ⟨0, ["d", "e", "..", "C.cs"]⟩
  contextFolder := some ⟨0, ["d", "e", ".."]⟩ }

theorem complete_of_read_named : ofEntries namedEntries none = .ok named ∧ ¬named.Lacks ∧
    named.complete = .ok completedNamed ∧ completedNamed.complete = .ok completedNamed ∧ named.Keeps completedNamed ∧
    ∀ o : Overrides, (named.override o).complete = .ok (completedNamed.override o) := by
  have hread : ofEntries namedEntries none = .ok named := rfl
  have hcomplete : named.complete = .ok completedNamed := rfl
  obtain ⟨-, hlacks, hall⟩ := complete_of_read hread
  exact ⟨hread, hlacks.1 ⟨_, hcomplete⟩, hcomplete, hall _ hcomplete⟩

end Config
end EntityGen
