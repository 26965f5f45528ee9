import EntityGen.Proofs.Emission.Directives
import EntityGen.Proofs.Generation.Contents

/-! The namespaces that the context of a run uses. -/

namespace EntityGen

open Text FileFrame

namespace Config

variable {c r : Config}

/-- All that the context might use is on one line and does not start like a directive. -/
def ImportsPlainly (c : Config) : Prop :=
  ∀ u ∈ c.namespace.toList ++ c.modelsNamespace.toList ++ c.contextUsings, OneLine u ∧ ¬ StartsDirective u

theorem ImportsPlainly.usings {models : String} (h : c.ImportsPlainly) (hr : c.complete = .ok r)
    (hmodels : c.NamesModels r models) : ∀ u ∈ (Generation.contextFrame r).usings, OneLine u ∧ ¬ StartsDirective u := by
  obtain ⟨hnamespace, husings⟩ := usings_of_complete hr
  have hall : ∀ u ∈ c.namespace.toList, OneLine u ∧ ¬ StartsDirective u := fun u hu =>
    h u (List.mem_append_left _ (List.mem_append_left _ hu))
  refine List.forall_mem_cons.2 ⟨?_, List.forall_mem_cons.2 ⟨?_, ?_⟩⟩
  · rw [hnamespace]
    cases hc : c.namespace with
    | none => exact ⟨by decide, by decide⟩
    | some u => exact hall u (by simp [hc])
  · rw [hmodels.resolved]
    rcases hmodels.source with hsource | hsource
    · exact h models (by simp [hsource])
    · exact hall models (by simp [hsource])
  · rw [husings]
    exact fun u hu => h u (List.mem_append_right _ hu)

end Config

namespace Generation

variable {s : Setting} {c r : Config} {d : Disk} {events : List Event} {sm : Summary} {j : Journal}

theorem read_context_of_run (hd : d.Sound) (hrun : outcome (run s c) ⟨d, events⟩ = (.ok sm, j))
    (hc : c.createContext = true) : ∃ r file, c.complete = .ok r ∧ sm.contextPath = some file ∧
      j.disk.read file = .ok (contextText r sm.artifacts).toUTF8 := by
  obtain ⟨r, folder, hr, hm, h⟩ := run_eq_ok_iff.1 hrun
  obtain ⟨bytes, j₁, rs, d', hp, _, hfile, ho, rfl, rfl⟩ := runCompleted_eq_ok_iff.1 h
  have hsound : (outcome (prepare r folder) ⟨d, events⟩).2.disk.Sound := prepare_sound _ hd
  rw [hp] at hsound
  have hc : r.createContext = true := (Config.completes_of_complete hr).createContext.trans hc
  obtain ⟨file, hfile⟩ := Option.isSome_iff_exists.1 (hfile hc)
  have hcontext := contextOutput_of_context hc hfile (artifacts s r rs)
  rw [outputs, hcontext] at ho
  exact ⟨r, file, hr, by simp [summary, hcontext], Output.read_of_forM_save_append hsound ho⟩

/-- The context of a run uses every namespace once, that of the models unless it is its own, and never its own. -/
theorem run_imports (hd : d.Sound) (hrun : outcome (run s c) ⟨d, events⟩ = (.ok sm, j))
    (hc : c.createContext = true) (hplain : c.ImportsPlainly) :
    ∃ r file text block models own, c.complete = .ok r ∧ r.modelsNamespace = some models ∧
      r.contextNamespace = some own ∧ sm.contextPath = some file ∧ j.disk.read file = .ok text.toUTF8 ∧
      readDirectives? (linesIn text) = some block ∧ block.Nodup ∧
      ("using " ++ models ++ ";" ∈ block ↔ models ≠ own) ∧ "using " ++ own ++ ";" ∉ block := by
  obtain ⟨r, file, hr, hfile, hread⟩ := read_context_of_run hd hrun hc
  obtain ⟨models, hmodels⟩ := Config.exists_namesModels hr
  obtain ⟨own, hown⟩ := Option.isSome_iff_exists.1 (Config.contextNamespace_isSome hr hc)
  have husings := hplain.usings hr hmodels
  have hblock := readDirectives?_text (contextFrame r) (fun u hu => (husings u hu).1)
    ((contextClass r).declaration sm.artifacts)
  have hnamespace : (contextFrame r).namespace = own := by rw [contextFrame, hown]; rfl
  have hmem : ∀ x, usingLine x ∈ directives (contextFrame r).usings own ↔
      x ∈ (contextFrame r).usings ∧ x ≠ "" ∧ x ≠ own :=
    fun x => usingLine_mem_directives_iff fun u hu => (husings u hu).2
  rw [hnamespace] at hblock
  refine ⟨r, file, _, _, models, own, hr, hmodels.resolved, hown, hfile, hread, hblock, nodup_directives _ _, ?_, ?_⟩
  · have husing : models ∈ (contextFrame r).usings := by simp [contextFrame, hmodels.resolved]
    refine (hmem models).trans ⟨fun h => h.2.2, fun h => ⟨husing, hmodels.ne_empty, h⟩⟩
  · exact fun h => ((hmem own).1 h).2.2 rfl

/-- The models have a namespace of their own. -/
def apart : Config where
  modelsFolder := some ⟨0, ["m"]⟩
  contextFile := some ⟨0, ["c.cs"]⟩
  «namespace» := some "N"
  modelsNamespace := some "N.Models"

def completedApart : Config := { apart with
  contextNamespace := some "N"
  contextName := some "MyORMKustoDbContext"
  contextFolder := some ⟨0, []⟩ }

theorem writeAll_apart :
    ∃ d', outcome (writeAll completedApart (outputs librarySetting completedApart [])) (Disk.fresh ["w"]) =
      (.ok (), d') := by
  refine ⟨_, Prod.ext ?_ rfl⟩
  simp only [outputs, entities, List.flatMap_nil, List.map_nil, List.nil_append, contextOutput, completedApart, apart,
    Option.toList_some, if_true, List.map_cons]
  generalize contextText _ _ = context
  cbv

theorem run_imports_apart : ∃ sm j text block, (Disk.fresh ["w"]).Sound ∧
    outcome (run librarySetting apart) ⟨Disk.fresh ["w"], []⟩ = (.ok sm, j) ∧ apart.ImportsPlainly ∧
      j.disk.read ⟨0, ["c.cs"]⟩ = .ok text.toUTF8 ∧ readDirectives? (linesIn text) = some block ∧
      "using N.Models;" ∈ block ∧ "using N;" ∉ block := by
  obtain ⟨d', hw⟩ := writeAll_apart
  have hrun : outcome (run librarySetting apart) ⟨Disk.fresh ["w"], []⟩ = _ := outcome_run rfl rfl rfl hw
  have hplain : apart.ImportsPlainly := by
    unfold Config.ImportsPlainly
    decide
  obtain ⟨r, file, text, block, models, own, hr, hmodels, hown, hfile, hread, hblock, -, husing, hnot⟩ :=
    run_imports Disk.fresh_sound hrun rfl hplain
  cases hr
  cases hmodels
  cases hown
  cases hfile
  exact ⟨_, _, text, block, Disk.fresh_sound, hrun, hplain, hread, hblock, husing.2 (by decide), hnot⟩

end Generation
end EntityGen
