import Mathlib
import EntityGen.Proofs.Config.Completion
import EntityGen.Proofs.Generation.Preparation
import EntityGen.Proofs.Generation.Success

/-! What a run without cleaning produces. -/

namespace EntityGen.Generation

open Disk

variable {s : Setting} {c : Config} {folder : Path} {d d' : Disk} {rs : List Report} {j j' : Journal}

/-- Makes the folders and then writes all texts in order. -/
def writeAll (c : Config) (os : List Output) : Action Unit := do
  makeFolders (c.modelsFolder.toList ++ c.contextFolder.toList)
  os.forM Output.save

def runEvents (s : Setting) (c : Config) (rs : List Report) : List Event :=
  [.prepared 0] ++ rs.flatMap (databaseEvents s c) ++ contextEvents c (artifacts s c rs)

/-- A run without cleaning succeeds if the catalog answers and everything can be written, and only then. -/
theorem runCompleted_eq_ok_iff_of_not_clean (hm : c.modelsFolder = some folder) (hc : c.clean = false)
    (hf : c.createContext = true → c.contextFile.isSome) {sm : Summary} :
    outcome (runCompleted s c folder) j = (.ok sm, j') ↔ ∃ rs d',
      survey s c j.calls c.databases = .ok rs ∧
        outcome (writeAll c (outputs s c rs)) j.disk = (.ok (), d') ∧
          sm = summary s c rs 0 ∧ j' = ⟨d', j.events ++ runEvents s c rs⟩ := by
  have hfolders : c.modelsFolder.toList ++ c.contextFolder.toList = folders c folder := by rw [hm]; rfl
  simp only [runCompleted_eq_ok_iff, prepare_eq_ok_iff hc, writeAll, hfolders, outcome_bind_eq_ok_iff]
  constructor
  · rintro ⟨_, _, rs, d₂, ⟨d₁, h₁, rfl, rfl⟩, hs, _, h₂, rfl, rfl⟩
    refine ⟨rs, d₂, hs, ⟨(), d₁, h₁, h₂⟩, rfl, ?_⟩
    rw [runEvents, List.append_assoc, List.append_assoc, List.append_assoc]
  · rintro ⟨rs, d₂, hs, ⟨_, d₁, h₁, h₂⟩, rfl, rfl⟩
    refine ⟨0, _, rs, d₂, ⟨d₁, h₁, rfl, rfl⟩, hs, hf, h₂, rfl, ?_⟩
    rw [runEvents, List.append_assoc, List.append_assoc, List.append_assoc]

/-- What a run that was told these reports leaves, and what it says about it. -/
structure Generated (s : Setting) (c : Config) (rs : List Report) (d d' : Disk) (sm : Summary) : Prop where
  databases : rs.map (·.database) = c.databases
  folders : ∀ r ∈ rs, c.folderOf r.database = .ok r.folder
  artifacts : sm.artifacts = rs.flatMap (Report.artifacts s c)
  modelPaths : sm.modelPaths = rs.flatMap fun r =>
    (r.artifacts s c).map fun a => modelPath r.folder a.typeName
  noContext : c.createContext = false → sm.contextPath = none
  context : c.createContext = true → ∃ file, c.contextFile = some file ∧ sm.contextPath = some file ∧
    d'.read file = .ok (contextText c sm.artifacts).toUTF8
  paths : (outputs s c rs).map (·.path) = sm.modelPaths ++ sm.contextPath.toList
  written : ∀ o ∈ outputs s c rs, ∃ l last, d'.locate true o.path = .ok l ∧
    Output.last? d' l (outputs s c rs) = some last ∧ d'.read o.path = .ok last.text.toUTF8
  kept : ∀ l, (∀ p ∈ sm.modelPaths ++ sm.contextPath.toList, d'.locate true p ≠ .ok l) →
    d'.file? l = d.file? l

theorem map_entities_of_survey {α : Type} {f : Entity → α} {g : Report → List α}
    (hg : ∀ before d r, surveyDatabase s c before d = .ok r → (r.entities s c).map f = g r)
    {before : List Call} {ds : List Database} (h : survey s c before ds = .ok rs) :
    (entities s c rs).map f = rs.flatMap g := by
  rw [entities, List.map_flatMap, List.flatMap_def, List.flatMap_def]
  congr 1
  apply List.map_congr_left
  exact forall_mem_survey hg h

theorem map_path_entities {before : List Call} {d : Database} {r : Report}
    (h : surveyDatabase s c before d = .ok r) :
    (r.entities s c).map Entity.path = (r.artifacts s c).map fun a => modelPath r.folder a.typeName := by
  rw [← map_artifact_entities h, List.map_map]
  apply List.map_congr_left
  intro e he
  rw [Entity.path, folder_of_mem_entities he]
  rfl

theorem map_path_outputs (s : Setting) (c : Config) (rs : List Report) (bytes : Nat) :
    (outputs s c rs).map (·.path) =
      (summary s c rs bytes).modelPaths ++ (summary s c rs bytes).contextPath.toList := by
  rw [outputs, List.map_append, List.map_map]
  congr 1
  simp only [summary, contextOutput]
  split
  · cases c.contextFile <;> rfl
  · rfl

theorem generated_of_writeAll (hd : d.Sound) (hf : c.createContext = true → c.contextFile.isSome)
    {before : List Call} (hs : survey s c before c.databases = .ok rs)
    (hw : outcome (writeAll c (outputs s c rs)) d = (.ok (), d')) :
    Generated s c rs d d' (summary s c rs 0) := by
  obtain ⟨_, d₁, h₁, h₂⟩ := outcome_bind_eq_ok_iff.1 hw
  have ha := makeFolders_adds hd _ h₁
  constructor
  case databases => exact map_database_of_survey hs
  case folders => exact folderOf_of_survey hs
  case artifacts => exact map_entities_of_survey (fun _ _ _ hr => map_artifact_entities hr) hs
  case modelPaths => exact map_entities_of_survey (fun _ _ _ hr => map_path_entities hr) hs
  case noContext =>
    intro hc
    simp [summary, contextOutput, hc]
  case context =>
    intro hc
    obtain ⟨file, hfile⟩ := Option.isSome_iff_exists.1 (hf hc)
    have ho := contextOutput_of_context hc hfile (artifacts s c rs)
    refine ⟨file, hfile, by simp [summary, ho], ?_⟩
    -- The context comes last, so nothing is written over it.
    rw [outputs, ho] at h₂
    exact Output.read_of_forM_save_append ha.sound h₂
  case paths => exact map_path_outputs s c rs 0
  case written => exact fun o ho => Output.read_of_forM_save ha.sound h₂ ho
  case kept =>
    intro l hl
    rw [← map_path_outputs, List.forall_mem_map] at hl
    rw [Output.file?_of_forM_save ha.sound h₂ hl, ha.same]

section Run

variable {r : Config} {events : List Event} (hr : c.complete = .ok r) (hc : r.clean = false)
  (hs : survey s r (Journal.mk d events).calls r.databases = .ok rs)
  (hw : outcome (writeAll r (outputs s r rs)) d = (.ok (), d'))

include hr hc hs hw

theorem outcome_run : outcome (run s c) ⟨d, events⟩ =
    (.ok (summary s r rs 0), ⟨d', events ++ runEvents s r rs⟩) := by
  have hcr := Config.completes_of_complete hr
  obtain ⟨folder, hm⟩ := Option.isSome_iff_exists.1 hcr.modelsFolder_isSome
  refine run_eq_ok_iff.2 ⟨r, folder, hr, hm, ?_⟩
  exact (runCompleted_eq_ok_iff_of_not_clean hm hc hcr.contextFile).2 ⟨rs, d', hs, hw, rfl, rfl⟩

/-- A run succeeds if the catalog answers and the texts can be written. There is one artifact for each table
and each function that is kept, each file holds what was written to it last, and all others are as before. -/
theorem run_generates (hd : d.Sound) :
    outcome (run s c) ⟨d, events⟩ =
        (.ok (summary s r rs 0), ⟨d', events ++ runEvents s r rs⟩) ∧
      Generated s r rs d d' (summary s r rs 0) := by
  constructor
  · exact outcome_run hr hc hs hw
  · exact generated_of_writeAll hd (Config.completes_of_complete hr).contextFile hs hw

end Run

/-- Two databases, of which one has a folder of its own and a rule that drops a table. -/
def library : Config where
  modelsFolder := some ⟨0, ["m"]⟩
  contextFile := some ⟨0, ["c.cs"]⟩
  «namespace» := some "N"
  databases := [⟨"A", some "a", { tables := [⟨.exact "Old", true⟩] }⟩, ⟨"B", none, {}⟩]

def completedLibrary : Config := { library with
  modelsNamespace := some "N"
  contextNamespace := some "N"
  contextName := some "MyORMKustoDbContext"
  contextFolder := some ⟨0, []⟩ }

def libraryTables : List TableRow :=
  [⟨"Book", "id", "System.Int32"⟩, ⟨"Old", "", ""⟩, ⟨"Loan", "", ""⟩, ⟨"Book", "title", "System.String"⟩]

def librarySetting : Setting where
  catalog := {
    tables := fun _ name => .ok (if name = "A" then libraryTables else [⟨"Book", "id", "System.Int64"⟩])
    functions := fun _ name => .ok (if name = "A" then [] else [⟨"Late", "(days:int)"⟩])
    probe := fun _ _ _ _ => .ok [⟨"reader", "System.Guid"⟩] }
  types := {}
  now := .first

def libraryReports : List Report :=
  [⟨⟨"A", some "a", { tables := [⟨.exact "Old", true⟩] }⟩, ⟨0, ["m", "a"]⟩, libraryTables, [], []⟩,
    ⟨⟨"B", none, {}⟩, ⟨0, ["m"]⟩, [⟨"Book", "id", "System.Int64"⟩], [⟨"Late", "(days:int)"⟩],
      [⟨⟨"Late", [⟨"days", "int"⟩]⟩, ["-1"], [⟨"reader", "System.Guid"⟩]⟩]⟩]

def libraryDisk : Disk := ⟨["w"], [(["w"], .directory), (["w", "n"], .file "n".toUTF8)]⟩

theorem libraryDisk_sound : libraryDisk.Sound := by
  apply sound_of_entries
  · decide
  · decide
  · simp [libraryDisk, IsEntryName]
  · simp [libraryDisk]
  · rfl

theorem entities_library : entities librarySetting completedLibrary libraryReports =
    [⟨⟨0, ["m", "a"]⟩, .ofTable "Book", [⟨"id", "System.Int32"⟩, ⟨"title", "System.String"⟩]⟩,
      ⟨⟨0, ["m", "a"]⟩, .ofTable "Loan", []⟩,
      ⟨⟨0, ["m"]⟩, .ofTable "Book", [⟨"id", "System.Int64"⟩]⟩,
      ⟨⟨0, ["m"]⟩, ⟨"Late", "Late(\x7bdays.GetKQLValue()\x7d)", "Late(int? days)"⟩,
        [⟨"reader", "System.Guid"⟩]⟩] := by
  decide

theorem writeAll_library : ∃ d', outcome (writeAll completedLibrary
    (outputs librarySetting completedLibrary libraryReports)) libraryDisk = (.ok (), d') := by
  refine ⟨_, Prod.ext ?_ rfl⟩
  rw [outputs, entities_library]
  simp only [List.map_cons, List.map_nil, contextOutput, completedLibrary, library, Option.toList_some,
    if_true, Entity.output, modelText]
  -- Whether the texts can be written does not depend on them, so they need not be computed.
  generalize contextText _ _ = context
  generalize Model.text _ _ _ _ = book
  generalize Model.text _ _ _ _ = loan
  generalize Model.text _ _ _ _ = otherBook
  generalize Model.text _ _ _ _ = late
  cbv

theorem run_generates_library : ∃ d', library.complete = .ok completedLibrary ∧
    completedLibrary.clean = false ∧ libraryDisk.Sound ∧
    survey librarySetting completedLibrary [] completedLibrary.databases = .ok libraryReports ∧
    outcome (writeAll completedLibrary (outputs librarySetting completedLibrary libraryReports)) libraryDisk =
      (.ok (), d') ∧
    outcome (run librarySetting library) ⟨libraryDisk, []⟩ =
      (.ok (summary librarySetting completedLibrary libraryReports 0),
        ⟨d', runEvents librarySetting completedLibrary libraryReports⟩) ∧
    Generated librarySetting completedLibrary libraryReports libraryDisk d'
      (summary librarySetting completedLibrary libraryReports 0) := by
  obtain ⟨d', hw⟩ := writeAll_library
  exact ⟨d', rfl, rfl, libraryDisk_sound, rfl, hw, run_generates rfl rfl rfl hw libraryDisk_sound⟩

end EntityGen.Generation
