import EntityGen.Config.Completion
import EntityGen.Proofs.Outcome

/-! What a completed configuration has, and when one can be completed. -/

namespace EntityGen.Config

variable {c r : Config}

/-- There is a namespace for the context and a place for its file. -/
structure NamesContext (c : Config) : Prop where
  named : (firstGiven c.contextNamespace c.namespace).isSome
  placed : (c.contextFile.or c.contextFolder).isSome

theorem isSome_contextFileOf (c : Config) (name : String) :
    (c.contextFileOf name).isSome = (c.contextFile.or c.contextFolder).isSome := by
  unfold contextFileOf
  cases c.contextFile <;> cases c.contextFolder <;> rfl

theorem given_some {s : String} (hs : s ≠ "") : given (some s) = some s := by
  unfold given
  split
  · next h => exact absurd (Option.some.inj h) hs
  · next h => cases h
  · next h => exact h.symm

theorem message_ofField {field : String} (h : field ≠ "") (fault : ConfigurationFault) :
    (Failure.ofField field fault).message = "Config '" ++ field ++ "': " ++ fault.text := by
  have hnone : given none = none := rfl
  simp only [Failure.ofField, Failure.message, withDatabase, given_some h, hnone]

theorem isSome_given_or (a b : Option String) :
    (given ((a.filter (· ≠ "")).or b)).isSome = (firstGiven a b).isSome := by
  cases a with
  | none => rfl
  | some s =>
    by_cases hs : s = ""
    · subst hs
      rfl
    · simp [firstGiven, Option.filter, hs, given_some hs]

theorem checkContext_eq_ok_iff {contextNamespace : Option String} {file : Option Path} :
    checkContext contextNamespace file = .ok () ↔ contextNamespace.isSome ∧ file.isSome := by
  cases contextNamespace <;> cases file <;> simp [checkContext]

/-- The configuration with everything filled in once the namespace of the models is known. -/
def filled (c : Config) (modelsNamespace : String) : Config :=
  let contextName := (given c.contextName).getD usualContextName
  { c with
    modelsNamespace := some modelsNamespace
    contextNamespace := (c.contextNamespace.filter (· ≠ "")).or c.namespace
    contextName := some contextName
    contextFile := c.contextFileOf contextName
    contextFolder := ((c.contextFileOf contextName).map Path.parent).or c.contextFolder }

/-- A configuration can be completed if it says where the models go and under which namespace, and the same of
the context if there is to be one. -/
theorem complete_eq_ok_iff : c.complete = .ok r ↔ c.modelsFolder.isSome ∧
    (c.createContext = true → c.NamesContext) ∧
      ∃ modelsNamespace, firstGiven c.modelsNamespace c.namespace = some modelsNamespace ∧
        r = c.filled modelsNamespace := by
  have hcheck : checkContext (given ((c.contextNamespace.filter (· ≠ "")).or c.namespace))
      (c.contextFileOf ((given c.contextName).getD usualContextName)) = .ok () ↔ c.NamesContext := by
    rw [checkContext_eq_ok_iff, isSome_given_or, isSome_contextFileOf]
    exact ⟨fun h => ⟨h.1, h.2⟩, fun h => ⟨h.named, h.placed⟩⟩
  constructor
  · intro h
    simp only [complete] at h
    split at h
    · cases h
    · next hf =>
      have hf : c.modelsFolder.isSome := Option.isSome_iff_ne_none.2 (by simpa using hf)
      split at h
      · next modelsNamespace hs =>
        split at h
        · obtain ⟨_, hk, h⟩ := bind_eq_ok_iff.1 h
          cases h
          exact ⟨hf, fun _ => hcheck.1 hk, modelsNamespace, hs, rfl⟩
        · next hc =>
          cases h
          exact ⟨hf, fun hc' => absurd hc' hc, modelsNamespace, hs, rfl⟩
      · cases h
  · rintro ⟨hf, hcontext, modelsNamespace, hs, rfl⟩
    have hf : c.modelsFolder.isNone = false := Option.isNone_eq_false_iff.2 hf
    simp only [complete, hf, hs, Bool.false_eq_true, if_false]
    split
    · next hc =>
      rw [hcheck.2 (hcontext hc)]
      rfl
    · rfl

theorem exists_complete_iff : (∃ r, c.complete = .ok r) ↔ c.modelsFolder.isSome ∧
    (firstGiven c.modelsNamespace c.namespace).isSome ∧ (c.createContext = true → c.NamesContext) := by
  simp only [complete_eq_ok_iff, Option.isSome_iff_exists]
  constructor
  · rintro ⟨_, hf, hcontext, modelsNamespace, hs, _⟩
    exact ⟨hf, ⟨modelsNamespace, hs⟩, hcontext⟩
  · rintro ⟨hf, ⟨modelsNamespace, hs⟩, hcontext⟩
    exact ⟨_, hf, hcontext, modelsNamespace, hs, rfl⟩

/-- What a configuration is blamed for when it cannot be completed is a field of it. -/
theorem exists_fault_of_complete {f : Failure} (h : c.complete = .error f) : ∃ field fault, f = .ofField field fault := by
  have hcheck : ∀ (contextNamespace : Option String) (file : Option Path),
      checkContext contextNamespace file = .error f → ∃ field fault, f = .ofField field fault := by
    intro contextNamespace file hf
    unfold checkContext at hf
    split at hf <;> cases hf <;> exact ⟨_, _, rfl⟩
  simp only [complete] at h
  split at h
  · cases h
    exact ⟨_, _, rfl⟩
  · split at h
    · split at h
      · cases hk : checkContext (given ((c.contextNamespace.filter (· ≠ "")).or c.namespace))
            (c.contextFileOf ((given c.contextName).getD usualContextName)) with
        | error f' =>
          rw [hk] at h
          cases h
          exact hcheck _ _ hk
        | ok _ =>
          rw [hk] at h
          cases h
      · cases h
    · cases h
      exact ⟨_, _, rfl⟩

/-- A completed configuration says where the models go, and where the context goes if there is to be one.
The rest of it is as it was. -/
structure Completes (c r : Config) : Prop where
  modelsFolder : r.modelsFolder = c.modelsFolder
  modelsFolder_isSome : r.modelsFolder.isSome
  createContext : r.createContext = c.createContext
  contextFile : r.createContext = true → r.contextFile.isSome
  contextFolder : ∀ file, r.contextFile = some file → r.contextFolder = some file.parent
  clean : r.clean = c.clean
  databases : r.databases = c.databases
  filters : r.filters = c.filters

theorem completes_of_complete (h : c.complete = .ok r) : c.Completes r := by
  obtain ⟨hf, hcontext, modelsNamespace, _, rfl⟩ := complete_eq_ok_iff.1 h
  refine ⟨rfl, hf, rfl, fun hc => ?_, fun file hfile => ?_, rfl, rfl, rfl⟩
  · exact (isSome_contextFileOf c _).trans (hcontext hc).placed
  · rw [filled] at hfile ⊢
    dsimp only at hfile ⊢
    rw [hfile]
    rfl

theorem contextFile_of_complete (h : c.complete = .ok r) :
    r.contextFile = c.contextFileOf ((given c.contextName).getD usualContextName) := by
  obtain ⟨_, _, _, _, rfl⟩ := complete_eq_ok_iff.1 h
  rfl

/-! ## Namespaces -/

theorem eq_some_of_firstGiven {a b : Option String} {s : String} (h : firstGiven a b = some s) :
    s ≠ "" ∧ (a = some s ∨ b = some s) := by
  have hgiven : ∀ o : Option String, given o = some s → s ≠ "" ∧ o = some s := by
    intro o ho
    unfold given at ho
    split at ho
    · cases ho
    · cases ho
    · next hne =>
      cases ho
      exact ⟨fun hs => hne (hs ▸ rfl), rfl⟩
  rw [firstGiven, Option.or_eq_some_iff] at h
  rcases h with h | ⟨-, h⟩
  · exact (hgiven a h).imp_right .inl
  · exact (hgiven b h).imp_right .inr

/-- A completed configuration names the namespace of the models as theirs was given, or else that for everything. -/
structure NamesModels (c r : Config) (models : String) : Prop where
  resolved : r.modelsNamespace = some models
  ne_empty : models ≠ ""
  source : c.modelsNamespace = some models ∨ c.namespace = some models

theorem exists_namesModels (h : c.complete = .ok r) : ∃ models, c.NamesModels r models := by
  obtain ⟨_, _, models, hmodels, rfl⟩ := complete_eq_ok_iff.1 h
  obtain ⟨hne, hsource⟩ := eq_some_of_firstGiven hmodels
  exact ⟨models, rfl, hne, hsource⟩

theorem isSome_of_given {o : Option String} (h : (given o).isSome) : o.isSome := by
  cases o with
  | none => exact h
  | some s => rfl

theorem contextNamespace_isSome (h : c.complete = .ok r) (hc : c.createContext = true) :
    r.contextNamespace.isSome := by
  obtain ⟨_, hcontext, _, _, rfl⟩ := complete_eq_ok_iff.1 h
  have hnamed := (hcontext hc).named
  rw [← isSome_given_or] at hnamed
  exact isSome_of_given hnamed

theorem usings_of_complete (h : c.complete = .ok r) : r.namespace = c.namespace ∧ r.contextUsings = c.contextUsings := by
  obtain ⟨_, _, _, _, rfl⟩ := complete_eq_ok_iff.1 h
  exact ⟨rfl, rfl⟩

/-! ## Completing again -/

theorem given_getD {o : Option String} {usual : String} (h : usual ≠ "") :
    given (some ((given o).getD usual)) = some ((given o).getD usual) := by
  apply given_some
  unfold given
  split
  · exact h
  · exact h
  · next hne => exact fun he => hne (he ▸ rfl)

theorem filter_or_filter_or (a b : Option String) :
    (((a.filter (· ≠ "")).or b).filter (· ≠ "")).or b = (a.filter (· ≠ "")).or b := by
  cases h : a.filter (· ≠ "") with
  | none => cases b with
    | none => rfl
    | some s => by_cases hs : s = "" <;> simp [Option.filter, hs]
  | some s =>
    have hs : s ≠ "" := by simpa using (Option.filter_eq_some_iff.1 h).2
    simp [Option.filter, hs]

theorem contextFileOf_filled (c : Config) (modelsNamespace name : String) :
    (c.filled modelsNamespace).contextFileOf name = (c.filled modelsNamespace).contextFile := by
  simp only [filled, contextFileOf]
  cases c.contextFile <;> cases c.contextFolder <;> rfl

/-- What is filled in is not filled in again. -/
theorem filled_filled (c : Config) (modelsNamespace : String) :
    (c.filled modelsNamespace).filled modelsNamespace = c.filled modelsNamespace := by
  have hname : (given (c.filled modelsNamespace).contextName).getD usualContextName =
      (given c.contextName).getD usualContextName := by
    rw [filled, given_getD (by decide)]
    rfl
  have hnamespace : ((c.filled modelsNamespace).contextNamespace.filter (· ≠ "")).or c.namespace =
      (c.filled modelsNamespace).contextNamespace := filter_or_filter_or c.contextNamespace c.namespace
  have hfolder : ((c.filled modelsNamespace).contextFile.map Path.parent).or (c.filled modelsNamespace).contextFolder =
      (c.filled modelsNamespace).contextFolder := by
    simp only [filled]
    cases (c.contextFileOf ((given c.contextName).getD usualContextName)).map Path.parent <;> simp
  rw [filled, contextFileOf_filled, hfolder, hname]
  exact congrArg (fun n => { c.filled modelsNamespace with contextNamespace := n }) hnamespace

/-- Completing a second time changes nothing. -/
theorem complete_complete (h : c.complete = .ok r) : r.complete = .ok r := by
  obtain ⟨hf, hcontext, modelsNamespace, hs, rfl⟩ := complete_eq_ok_iff.1 h
  have hmodels : firstGiven (c.filled modelsNamespace).modelsNamespace (c.filled modelsNamespace).namespace =
      some modelsNamespace := by
    rw [firstGiven, filled, given_some (eq_some_of_firstGiven hs).1]
    rfl
  refine complete_eq_ok_iff.2 ⟨hf, fun hc => ⟨?_, ?_⟩, modelsNamespace, hmodels, (filled_filled c modelsNamespace).symm⟩
  · have hnamed := (hcontext hc).named
    rw [← isSome_given_or] at hnamed ⊢
    rwa [filled, filter_or_filter_or]
  · rw [← isSome_contextFileOf _ usualContextName, contextFileOf_filled]
    exact (isSome_contextFileOf c _).trans (hcontext hc).placed

theorem namesContext_override {o : Overrides} : (c.override o).NamesContext ↔ c.NamesContext :=
  ⟨fun h => ⟨h.named, h.placed⟩, fun h => ⟨h.named, h.placed⟩⟩

/-- Switches can be thrown before or after. -/
theorem complete_override (h : c.complete = .ok r) (o : Overrides) : (c.override o).complete = .ok (r.override o) := by
  obtain ⟨hf, hcontext, modelsNamespace, hs, rfl⟩ := complete_eq_ok_iff.1 h
  refine complete_eq_ok_iff.2 ⟨hf, fun hc => namesContext_override.2 (hcontext ?_), modelsNamespace, hs, rfl⟩
  simp only [override, Bool.and_eq_true] at hc
  exact hc.1

end EntityGen.Config
