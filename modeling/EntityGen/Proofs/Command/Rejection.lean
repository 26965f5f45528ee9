import Mathlib
import EntityGen.Command
import EntityGen.Proofs.Generation.Blame
import EntityGen.Proofs.Loading
import EntityGen.Proofs.Value.Equality

/-! A command to generate that the configuration makes fail has done nothing. -/

namespace EntityGen

open Run

variable {o : GenerateOptions} {s : Surroundings} {d : Disk} {f : Failure} {j : Journal}

/-- What must be right before anything is done: the file of the configuration, the source of the schemas,
and what the configuration leaves open. -/
def GenerateOptions.check (o : GenerateOptions) (s : Surroundings) (d : Disk) : Except Failure Unit := do
  let c ← Config.ofFile d o.config
  let _ ← o.catalog s d
  let _ ← (c.override o.overrides).complete
  return

theorem Run.outcome_load_bind {α β : Type} {q : Disk → Except Failure α} (g : α → Run β) {a : α}
    (h : q j.disk = .ok a) : outcome (load q >>= g) j = outcome (g a) j := by
  simp only [load, outcome_bind, outcome_get, h, outcome_pure]

theorem Run.outcome_load_bind_of_error {α β : Type} {q : Disk → Except Failure α} (g : α → Run β)
    (h : q j.disk = .error f) : outcome (load q >>= g) j = (.error f, j) := by
  simp only [load, outcome_bind, outcome_get, h, outcome_throw]

namespace GenerateOptions

theorem blameless_of_catalog {c : Catalog} (h : o.catalog s d = .ok c) : c.Blameless := by
  unfold catalog at h
  split at h
  · cases h
  · cases hs : Snapshot.ofFile d _ with
    | error e => rw [hs] at h; cases h
    | ok snapshot =>
      rw [hs] at h
      cases h
      exact snapshot.blameless_catalog
  · cases h
  · cases hs : o.service s with
    | error e => rw [hs] at h; cases h
    | ok service =>
      rw [hs] at h
      cases h
      exact service.blameless_catalog s.respond

/-- A check that fails ends the run. -/
theorem outcome_run_of_check (h : o.check s j.disk = .error f) : outcome (o.run s) j = (.error f, j) := by
  rw [check] at h
  cases hc : Config.ofFile j.disk o.config with
  | error e =>
    rw [hc] at h
    cases h
    rw [run, outcome_load_bind_of_error _ hc]
  | ok c =>
    rw [run, outcome_load_bind _ hc]
    cases hs : o.catalog s j.disk with
    | error e =>
      rw [hc, hs] at h
      cases h
      rw [outcome_load_bind_of_error _ hs]
    | ok catalog =>
      rw [outcome_load_bind _ hs]
      cases hr : (c.override o.overrides).complete with
      | error e =>
        rw [hc, hs] at h
        simp only [bind, Except.bind, hr] at h
        cases h
        rw [outcome_bind, Generation.outcome_run_of_incomplete hr]
      | ok r =>
        rw [hc, hs] at h
        simp only [bind, Except.bind, hr] at h
        cases h

/-- Behind the check the configuration is not to blame any more. -/
theorem blameless_of_check (h : o.check s j.disk = .ok ()) : Blameless (outcome (o.run s) j).1 := by
  obtain ⟨c, hc, h⟩ := bind_eq_ok_iff.1 h
  obtain ⟨catalog, hs, h⟩ := bind_eq_ok_iff.1 h
  obtain ⟨r, hr, -⟩ := bind_eq_ok_iff.1 h
  rw [run, outcome_load_bind _ hc, outcome_load_bind _ hs]
  have hrun : (Generation.run { catalog, types := {}, now := s.now } (c.override o.overrides)).Blameless :=
    Generation.blameless_run (blameless_of_catalog hs) hr
  refine hrun.bind (fun summary => ?_) j
  refine (Blameless.note _).bind fun _ => (Blameless.note _).bind fun _ => ?_
  split
  · exact .note _
  · exact .pure _

theorem check_of_run (hf : f.isConfiguration = true) (h : (outcome (o.run s) j).1 = .error f) :
    o.check s j.disk = .error f := by
  cases hc : o.check s j.disk with
  | error e =>
    rw [outcome_run_of_check hc] at h
    exact h
  | ok _ =>
    rw [blameless_of_check hc f h] at hf
    cases hf

end GenerateOptions

namespace Invocation

theorem ofArguments_generate_eq (args : List String) : ofArguments ("generate" :: args) =
    ofParsed "generate" (.generate ∘ .ofFound) (Arguments.parse generateOptions "--help" "config" args) := by
  rw [ofArguments, if_neg (by decide), if_pos rfl]

theorem ofArguments_generate (args : List String) :
    (∃ m, ofArguments ("generate" :: args) = .misuse m) ∨ ofArguments ("generate" :: args) = .usage "generate" ∨
      ∃ o, ofArguments ("generate" :: args) = .generate o := by
  rw [ofArguments_generate_eq]
  cases Arguments.parse generateOptions "--help" "config" args with
  | error m => exact .inl ⟨m, rfl⟩
  | ok found =>
    rw [ofParsed]
    split
    · exact .inr (.inl rfl)
    · exact .inr (.inr ⟨_, rfl⟩)

theorem blameless_announceAll (lines : List String) : (announceAll lines).Blameless :=
  .forM (fun _ => .note _) lines

/-- If the configuration is what makes a command to generate fail, a check has failed that only looks at the
disk. The command tells that and ends, and the disk is as it was. -/
theorem run_rejects {args : List String} (hf : f.isConfiguration = true)
    (h : (outcome ((ofArguments ("generate" :: args)).program s) ⟨d, []⟩).1 = .error f) :
    (∃ o, ofArguments ("generate" :: args) = .generate o ∧ o.check s d = .error f) ∧
      (ofArguments ("generate" :: args)).run s d = (.exit 1 ("Error: " ++ f.message ++ "\n"), ⟨d, []⟩) := by
  rcases ofArguments_generate args with ⟨m, ho⟩ | ho | ⟨o, ho⟩
  · rw [ho] at h
    cases h
  · rw [ho] at h
    rw [blameless_announceAll _ _ f h] at hf
    cases hf
  · rw [ho] at h ⊢
    have hc := GenerateOptions.check_of_run hf h
    have hr : ((generate o).program s).run.run ⟨d, []⟩ = (.error f, ⟨d, []⟩) :=
      GenerateOptions.outcome_run_of_check hc
    refine ⟨⟨o, rfl, hc⟩, ?_⟩
    rw [run, hr]
    cases f with
    | configuration fault field database => rfl
    | _ => cases hf

/-- There is a model to clean away, but no namespace for new ones. -/
def unnamedDisk : Disk where
  home := ["w"]
  entries := [(["w"], .directory),
    (["w", "c.yaml"], .file "models_folder: m\ncontext_file: c.cs\ndatabases: [D]\n".toUTF8),
    (["w", "s.yaml"], .file "databases:\n  D:\n    tables:\n      T:\n        a: System.Int32\n".toUTF8),
    (["w", "m"], .directory), (["w", "m", "Old.cs"], .file "old".toUTF8)]

def unnamed : Config where
  modelsFolder := some ⟨1, ["w", "m"]⟩
  contextFile := some ⟨1, ["w", "c.cs"]⟩
  databases := [⟨"D", none, {}⟩]

def unnamedOptions : GenerateOptions where
  config := ⟨0, ["c.yaml"]⟩
  snapshot := some ⟨0, ["s.yaml"]⟩
  overrides := { clean := true }

def offline : Surroundings := ⟨none, fun _ _ => .fault .connection, .first⟩

theorem ofArguments_unnamed :
    ofArguments ["generate", "c.yaml", "--snapshot", "s.yaml", "--clean"] = .generate unnamedOptions := by
  have hclasses : Arguments.classifyAll generateOptions ["c.yaml", "--snapshot", "s.yaml", "--clean"] =
      .ok [("c.yaml", .plain), ("--snapshot", .option ⟨["--snapshot"], .text⟩ none), ("s.yaml", .plain),
        ("--clean", .option ⟨["--clean"], .nothing⟩ none)] := by cbv
  have hparse : Arguments.parse generateOptions "--help" "config" ["c.yaml", "--snapshot", "s.yaml", "--clean"] =
      .ok ⟨some "c.yaml", [("--snapshot", "s.yaml"), ("--clean", "")], []⟩ := by
    rw [Arguments.parse, hclasses]
    rfl
  rw [ofArguments_generate_eq, hparse]
  rfl

theorem ofFile_unnamed : Config.ofFile unnamedDisk ⟨0, ["c.yaml"]⟩ = .ok unnamed := by
  rw [Config.ofFile_of_read ⟨1, ["w", "c.yaml"]⟩
    "models_folder: m\ncontext_file: c.cs\ndatabases: [D]\n" (by cbv) (by cbv) (by cbv)]
  decide +kernel

/-- A snapshot with a single table. -/
theorem mappingOfText_single :
    mappingOfText "s.yaml" "databases:\n  D:\n    tables:\n      T:\n        a: System.Int32\n" =
      .ok [(.text "databases", .map [(.text "D", .map [(.text "tables", .map [(.text "T", .map
        [(.text "a", .text "System.Int32")])])])])] := by
  decide +kernel

theorem exists_catalog_unnamed : ∃ c, unnamedOptions.catalog offline unnamedDisk = .ok c := by
  have hname : (⟨0, ["s.yaml"]⟩ : Path).text = "s.yaml" := by cbv
  have hsnapshot : ∃ s, Snapshot.ofFile unnamedDisk ⟨0, ["s.yaml"]⟩ = .ok s := by
    rw [Snapshot.ofFile, mappingOfFile_of_read
      "databases:\n  D:\n    tables:\n      T:\n        a: System.Int32\n" (by cbv), hname, mappingOfText_single]
    exact ⟨_, rfl⟩
  obtain ⟨s, hs⟩ := hsnapshot
  have hc : unnamedOptions.catalog offline unnamedDisk =
    (Snapshot.ofFile unnamedDisk ⟨0, ["s.yaml"]⟩).map (·.catalog) := rfl
  rw [hc, hs]
  exact ⟨_, rfl⟩

theorem check_unnamed : unnamedOptions.check offline unnamedDisk =
    .error (.ofField "models_namespace" .requiredWithoutNamespace) := by
  obtain ⟨c, hc⟩ := exists_catalog_unnamed
  have hf : Config.ofFile unnamedDisk unnamedOptions.config = .ok unnamed := ofFile_unnamed
  rw [GenerateOptions.check, hf, hc]
  rfl

theorem run_rejects_unnamed :
    let i := ofArguments ["generate", "c.yaml", "--snapshot", "s.yaml", "--clean"]
    let f := Failure.ofField "models_namespace" .requiredWithoutNamespace
    f.isConfiguration = true ∧ (outcome (i.program offline) ⟨unnamedDisk, []⟩).1 = .error f ∧
      (∃ o, i = .generate o ∧ o.check offline unnamedDisk = .error f) ∧
        i.run offline unnamedDisk = (.exit 1 ("Error: " ++ f.message ++ "\n"), ⟨unnamedDisk, []⟩) := by
  have hrun : outcome (unnamedOptions.run offline) ⟨unnamedDisk, []⟩ = _ :=
    GenerateOptions.outcome_run_of_check check_unnamed
  have h : (outcome ((ofArguments ["generate", "c.yaml", "--snapshot", "s.yaml", "--clean"]).program offline)
      ⟨unnamedDisk, []⟩).1 = .error (.ofField "models_namespace" .requiredWithoutNamespace) := by
    rw [ofArguments_unnamed, program, hrun]
  exact ⟨rfl, h, run_rejects rfl h⟩

end Invocation
end EntityGen
