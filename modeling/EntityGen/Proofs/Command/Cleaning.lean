import EntityGen.Proofs.Cleaning.Progress
import EntityGen.Proofs.Command.Rejection
import EntityGen.Proofs.Generation.Preparation
import EntityGen.Proofs.Generation.Recorded
import EntityGen.Proofs.Generation.Success

/-! When the command to clean succeeds after the command to generate. -/

namespace EntityGen

open Run

namespace Config

variable {c r : Config} {o : Overrides}

/-- What can be completed with switches can be completed without them, but for a context that they left out. -/
theorem exists_complete_of_override (h : (c.override o).complete = .ok r) :
    (∃ r', c.complete = .ok r') ↔ (o.noContext = true → c.createContext = true → c.NamesContext) := by
  obtain ⟨hf, hcontext, modelsNamespace, hs, _⟩ := complete_eq_ok_iff.1 h
  rw [namesContext_override] at hcontext
  rw [exists_complete_iff]
  constructor
  · exact fun h _ => h.2.2
  · intro hnames
    refine ⟨hf, Option.isSome_of_eq_some hs, fun hc => ?_⟩
    cases ho : o.noContext with
    | true => exact hnames ho hc
    | false => exact hcontext (by simp [override, hc, ho])

example :
    let c : Config :=
      { modelsFolder := some ⟨0, ["m"]⟩, «namespace» := some "N", databases := [⟨"D", none, {}⟩] }
    (c.override { noContext := true }).complete.isOk = true ∧
      c.complete = .error (.ofField "context_file" .requiredWithoutFolder) := by decide +kernel

end Config

namespace Generation

variable {st : Setting} {c : Config} {d : Disk} {events : List Event} {sm : Summary} {j : Journal}

theorem sound_of_run (hd : d.Sound) (h : outcome (run st c) ⟨d, events⟩ = (.ok sm, j)) : j.disk.Sound := by
  obtain ⟨r, folder, _, _, h⟩ := run_eq_ok_iff.1 h
  obtain ⟨_, j₁, rs, d', hp, _, _, ho, _, rfl⟩ := runCompleted_eq_ok_iff.1 h
  have hprepared : (outcome (prepare r folder) ⟨d, events⟩).2.disk.Sound := prepare_sound _ hd
  rw [hp] at hprepared
  exact (Output.forM_save hprepared ho).1.sound

end Generation

theorem Ending.ofResult_eq_exit_zero_iff {result : Except Failure Unit} :
    Ending.ofResult result = .exit 0 "" ↔ result = .ok () := by
  rcases result with f | _
  · cases f <;> simp [ofResult]
  · simp [ofResult]

theorem Run.outcome_load_bind_eq_ok_iff {α β : Type} {q : Disk → Except Failure α} {g : α → Run β} {b : β}
    {j j' : Journal} : outcome (load q >>= g) j = (.ok b, j') ↔
      ∃ a, q j.disk = .ok a ∧ outcome (g a) j = (.ok b, j') := by
  cases hq : q j.disk with
  | error f => simp [outcome_load_bind_of_error g hq]
  | ok a => simp [outcome_load_bind g hq]

variable {o : GenerateOptions} {s s' : Surroundings} {d : Disk} {c r : Config} {folder : Path} {j j' : Journal}

namespace GenerateOptions

/-- What is told at the end changes nothing. -/
theorem outcome_run_of_generated {catalog : Catalog} {sm : Summary} (hc : Config.ofFile j.disk o.config = .ok c)
    (hs : o.catalog s j.disk = .ok catalog)
    (hr : outcome (Generation.run { catalog, types := {}, now := s.now } (c.override o.overrides)) j =
      (.ok sm, j')) : ∃ events, outcome (o.run s) j = (.ok (), ⟨j'.disk, events⟩) := by
  rw [run, outcome_load_bind _ hc, outcome_load_bind _ hs, outcome_bind, hr]
  dsimp only
  rw [outcome_note_bind, outcome_note_bind]
  cases sm.contextPath <;> exact ⟨_, rfl⟩

theorem generated_of_run (h : outcome (o.run s) j = (.ok (), j')) : ∃ c catalog sm j₁,
    Config.ofFile j.disk o.config = .ok c ∧ o.catalog s j.disk = .ok catalog ∧
      outcome (Generation.run { catalog, types := {}, now := s.now } (c.override o.overrides)) j =
        (.ok sm, j₁) ∧ j₁.disk = j'.disk := by
  obtain ⟨c, hc, h₁⟩ := outcome_load_bind_eq_ok_iff.1 h
  obtain ⟨catalog, hs, h₂⟩ := outcome_load_bind_eq_ok_iff.1 h₁
  obtain ⟨sm, j₁, hr, _⟩ := outcome_bind_eq_ok_iff.1 h₂
  obtain ⟨events, he⟩ := outcome_run_of_generated hc hs hr
  rw [he] at h
  cases h
  exact ⟨c, catalog, sm, j₁, hc, hs, hr, rfl⟩

end GenerateOptions

namespace CleanOptions

variable {k : CleanOptions}

theorem fails_of_incomplete (hc : Config.ofFile j.disk k.config = .ok c) (hr : ∀ r, c.complete ≠ .ok r) :
    (outcome k.run j).1 ≠ .ok () := by
  rw [run, outcome_load_bind _ hc, outcome_bind]
  cases hcomplete : c.complete with
  | error f => simp [Generation.completed, hcomplete]
  | ok r => exact absurd hcomplete (hr r)

theorem succeeds_of_cleanOutput (hk : k.dry = false) (hc : Config.ofFile j.disk k.config = .ok c)
    (hr : c.complete = .ok r) (hm : r.modelsFolder = some folder)
    (ho : ∀ events, ∃ n, (outcome (Cleaning.cleanOutput false folder r.contextFile) ⟨j.disk, events⟩).1 = .ok n) :
    (outcome k.run j).1 = .ok () := by
  have hcompleted : outcome (Generation.completed c) j = (.ok (r, folder), j) :=
    Generation.completed_eq_ok_iff.2 ⟨hr, hm, rfl⟩
  rw [run, outcome_load_bind _ hc, outcome_bind, hcompleted]
  dsimp only
  rw [outcome_note_bind, hk, outcome_bind]
  obtain ⟨n, hn⟩ := ho (j.events ++ [Event.announced "Cleaning generated output..."])
  generalize outcome (Cleaning.cleanOutput false folder r.contextFile) _ = result at hn ⊢
  obtain ⟨_, j'⟩ := result
  cases hn
  rfl

end CleanOptions

namespace Invocation

def tableText : String := "databases:\n  D:\n    tables:\n      T:\n        a: System.Int32\n"

/-- There is a configuration, and a snapshot with a single table. -/
def givenDisk (config : String) : Disk where
  home := ["w"]
  entries := [(["w"], .directory), (["w", "c.yaml"], .file config.toUTF8),
    (["w", "s.yaml"], .file tableText.toUTF8)]

def preparedDisk (config : String) : Disk :=
  { givenDisk config with entries := (givenDisk config).entries ++ [(["w", "m"], .directory)] }

def generatedDisk (config model : String) : Disk :=
  { preparedDisk config with
    entries := (preparedDisk config).entries ++ [(["w", "m", "T.cs"], .file model.toUTF8)] }

def modelsFolder : Path := ⟨1, ["w", "m"]⟩

def leavingOut : GenerateOptions where
  config := ⟨0, ["c.yaml"]⟩
  snapshot := some ⟨0, ["s.yaml"]⟩
  overrides := { noContext := true }

theorem ofArguments_leavingOut :
    ofArguments ["generate", "c.yaml", "--snapshot", "s.yaml", "--no-context"] = .generate leavingOut := by
  have hclasses : Arguments.classifyAll generateOptions ["c.yaml", "--snapshot", "s.yaml", "--no-context"] =
      .ok [("c.yaml", .plain), ("--snapshot", .option ⟨["--snapshot"], .text⟩ none), ("s.yaml", .plain),
        ("--no-context", .option ⟨["--no-context"], .nothing⟩ none)] := by cbv
  have hparse : Arguments.parse generateOptions "--help" "config"
      ["c.yaml", "--snapshot", "s.yaml", "--no-context"] =
        .ok ⟨some "c.yaml", [("--snapshot", "s.yaml"), ("--no-context", "")], []⟩ := by
    rw [Arguments.parse, hclasses]
    rfl
  rw [ofArguments_generate_eq, hparse]
  rfl

theorem ofArguments_clean : ofArguments ["clean", "c.yaml"] = .clean { config := ⟨0, ["c.yaml"]⟩ } := by
  have hclasses : Arguments.classifyAll cleanOptions ["c.yaml"] = .ok [("c.yaml", .plain)] := by cbv
  have hparse : Arguments.parse cleanOptions "--help" "config" ["c.yaml"] = .ok ⟨some "c.yaml", [], []⟩ := by
    rw [Arguments.parse, hclasses]
    rfl
  rw [ofArguments, if_neg (by decide), if_neg (by decide), if_pos rfl, hparse]
  rfl

section Generated

variable {config : String}
  (hread : (mappingOfText "/w/c.yaml" config >>= fun entries => Config.ofEntries entries (some ⟨1, ["w"]⟩)) = .ok c)

include hread

theorem ofFile_extended (more : List (Place × Entry)) :
    Config.ofFile { givenDisk config with entries := (givenDisk config).entries ++ more } ⟨0, ["c.yaml"]⟩ =
      .ok c :=
  (Config.ofFile_of_read ⟨1, ["w", "c.yaml"]⟩ config (by cbv) (by cbv) (by cbv)).trans hread

theorem ofFile_given : Config.ofFile (givenDisk config) ⟨0, ["c.yaml"]⟩ = .ok c := ofFile_extended hread []

theorem ofFile_generated (model : String) : Config.ofFile (generatedDisk config model) ⟨0, ["c.yaml"]⟩ = .ok c :=
  ofFile_extended hread [(["w", "m"], .directory), (["w", "m", "T.cs"], .file model.toUTF8)]

omit hread in
theorem catalog_given (config : String) :
    leavingOut.catalog offline (givenDisk config) = .ok Generation.singleSnapshot.catalog := by
  have hentries : mappingOfText "s.yaml" tableText =
      .ok [(.text "databases", .map Generation.singleSnapshot.databases)] := mappingOfText_single
  have hname : (⟨0, ["s.yaml"]⟩ : Path).text = "s.yaml" := by cbv
  have hsnapshot : Snapshot.ofFile (givenDisk config) ⟨0, ["s.yaml"]⟩ = .ok Generation.singleSnapshot := by
    rw [Snapshot.ofFile, mappingOfFile_of_read tableText (by cbv), hname, hentries]
    rfl
  have hcatalog : leavingOut.catalog offline (givenDisk config) =
      (Snapshot.ofFile (givenDisk config) ⟨0, ["s.yaml"]⟩).map (·.catalog) := rfl
  rw [hcatalog, hsnapshot]
  rfl

/-- Only the model is written when the context is left out. -/
theorem exists_generated (hr : (c.override { noContext := true }).complete = .ok r)
    (hm : r.modelsFolder = some modelsFolder) (hclean : r.clean = false) (hcreate : r.createContext = false)
    (hdb : r.databases = [⟨"D", none, {}⟩]) (hf : r.filters = {})
    (hcontext : ∀ p ∈ r.contextFolder, p = ⟨1, ["w"]⟩) :
    ∃ model events, (generate leavingOut).run offline (givenDisk config) =
      (.exit 0 "", ⟨generatedDisk config model, events⟩) := by
  obtain ⟨model, ho⟩ : ∃ model, Generation.outputs Generation.singleSetting r (Generation.reportsIn modelsFolder) =
      ⟨Generation.modelPath modelsFolder "T", model⟩ :: Generation.contextOutput r [.ofTable "T"] :=
    Generation.outputs_reportsIn hf
  rw [Generation.contextOutput_of_no_context hcreate] at ho
  have hsave : outcome (Output.save ⟨Generation.modelPath modelsFolder "T", model⟩) (preparedDisk config) =
      (.ok (), generatedDisk config model) := by cbv
  have hwritten : outcome ((Generation.outputs Generation.singleSetting r (Generation.reportsIn modelsFolder)).forM
      Output.save) (preparedDisk config) = (.ok (), generatedDisk config model) := by
    rw [ho, outcome_forM_cons, hsave]
    rfl
  have hmade : outcome (Generation.makeFolders (Generation.folders r modelsFolder)) (givenDisk config) =
      (.ok (), preparedDisk config) := by
    have hmodels : outcome (Action.ensureDirectories modelsFolder) (givenDisk config) =
        (.ok (), preparedDisk config) := by cbv
    have hworking : outcome (Action.ensureDirectories ⟨1, ["w"]⟩) (preparedDisk config) =
        (.ok (), preparedDisk config) := by cbv
    rw [Generation.makeFolders, Generation.folders, outcome_forM_cons, hmodels]
    cases hp : r.contextFolder with
    | none => rfl
    | some p =>
      cases hcontext p hp
      exact (outcome_forM_cons ..).trans (by rw [hworking]; rfl)
  have hprepare : outcome (Generation.prepare r modelsFolder) ⟨givenDisk config, []⟩ =
      (.ok 0, ⟨preparedDisk config, []⟩) :=
    (Generation.prepare_eq_ok_iff hclean).2 ⟨_, hmade, rfl, rfl⟩
  obtain ⟨sm, events, hrun⟩ : ∃ sm events,
      outcome (Generation.run Generation.singleSetting (c.override leavingOut.overrides)) ⟨givenDisk config, []⟩ =
        (.ok sm, ⟨generatedDisk config model, events⟩) :=
    ⟨_, _, Generation.run_eq_ok_iff.2 ⟨r, modelsFolder, hr, hm, Generation.runCompleted_eq_ok_iff.2
      ⟨0, _, _, _, hprepare, Generation.survey_reportsIn hm hdb, by simp [hcreate], hwritten, rfl, rfl⟩⟩⟩
  have hc : Config.ofFile (givenDisk config) leavingOut.config = .ok c := ofFile_given hread
  obtain ⟨events', he⟩ := GenerateOptions.outcome_run_of_generated (j := ⟨givenDisk config, []⟩) hc
    (catalog_given config) hrun
  refine ⟨model, events', ?_⟩
  have hresult : ((generate leavingOut).program offline).run.run ⟨givenDisk config, []⟩ =
      (.ok (), ⟨generatedDisk config model, events'⟩) := he
  rw [run, hresult]
  rfl

end Generated

theorem givenDisk_sound (config : String) : (givenDisk config).Sound := by
  apply Disk.sound_of_entries
  · simp [givenDisk]
  · intro e he
    simp only [givenDisk, List.mem_cons, List.not_mem_nil, or_false] at he
    rcases he with rfl | rfl | rfl <;> exact ⟨by simp, rfl⟩
  · simp [givenDisk, Disk.IsEntryName]
  · simp [givenDisk]
  · rfl

theorem navigable_generated (config model : String) :
    Cleaning.Navigable (generatedDisk config model) modelsFolder (some ⟨1, ["w", "c.cs"]⟩) := by
  have hlinks : (generatedDisk config model).LinkFree :=
    Disk.linkFree_of_entries (by simp [generatedDisk, preparedDisk, givenDisk])
  have hfolder : (generatedDisk config model).locate true modelsFolder = .ok ["w", "m"] := by cbv
  have hplaces : (generatedDisk config model).placesBelow ["w", "m"] = [["w", "m", "T.cs"]] := by cbv
  have hmodel : (generatedDisk config model).isFile ⟨1, ["w", "m", "T.cs"]⟩ = .ok true := by cbv
  refine Cleaning.navigable_of_linkFree hlinks (by decide) ?_ ⟨true, by cbv⟩ ?_
  · rintro file ⟨⟩
    exact ⟨false, by cbv⟩
  · intro m l hm hb
    cases hfolder.symm.trans hm
    rw [← Disk.mem_placesBelow_iff_below, hplaces] at hb
    cases List.mem_singleton.1 hb
    exact ⟨true, hmodel⟩

/-- Nothing is said about the context. -/
def unplacedText : String := "namespace: N\nmodels_folder: m\ndatabases: [D]\n"

def unplaced : Config where
  modelsFolder := some modelsFolder
  «namespace» := some "N"
  databases := [⟨"D", none, {}⟩]

def completedUnplaced : Config := { unplaced with
  modelsNamespace := some "N"
  contextNamespace := some "N"
  contextName := some "MyORMKustoDbContext"
  createContext := false }

def placedText : String := "namespace: N\nmodels_folder: m\ncontext_file: c.cs\ndatabases: [D]\n"

def placed : Config := { unplaced with contextFile := some ⟨1, ["w", "c.cs"]⟩ }

def completedPlaced : Config := { completedUnplaced with
  contextFile := some ⟨1, ["w", "c.cs"]⟩
  contextFolder := some ⟨1, ["w"]⟩ }

theorem read_placed : (mappingOfText "/w/c.yaml" placedText >>= fun entries =>
    Config.ofEntries entries (some ⟨1, ["w"]⟩)) = .ok placed := by
  have hentries : mappingOfText "/w/c.yaml" placedText =
      .ok [(.text "namespace", .text "N"), (.text "models_folder", .text "m"), (.text "context_file", .text "c.cs"),
        (.text "databases", .list [.text "D"])] := by decide +kernel
  rw [hentries]
  rfl

theorem read_unplaced : (mappingOfText "/w/c.yaml" unplacedText >>= fun entries =>
    Config.ofEntries entries (some ⟨1, ["w"]⟩)) = .ok unplaced := by
  have hentries : mappingOfText "/w/c.yaml" unplacedText =
      .ok [(.text "namespace", .text "N"), (.text "models_folder", .text "m"),
        (.text "databases", .list [.text "D"])] := by decide +kernel
  rw [hentries]
  rfl

end Invocation
end EntityGen
