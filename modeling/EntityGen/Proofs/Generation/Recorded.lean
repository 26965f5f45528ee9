import EntityGen.Proofs.Generation.Success
import EntityGen.Schema.Snapshot

/-! Runs with a catalog that answers the same however often it is asked. -/

namespace EntityGen

/-- Answers hang neither on the calls before nor on the arguments of a probe. -/
structure Catalog.Recorded (k : Catalog) : Prop where
  tables : ∀ before before' name, k.tables before name = k.tables before' name
  functions : ∀ before before' name, k.functions before name = k.functions before' name
  probe : ∀ before before' function arguments arguments' name columns,
    k.probe before function arguments name = .ok columns → k.probe before' function arguments' name = .ok columns

theorem Snapshot.recorded_catalog (k : Snapshot) : k.catalog.Recorded where
  tables _ _ _ := rfl
  functions _ _ _ := rfl
  probe _ _ function arguments arguments' name columns h := by
    obtain ⟨listed, hl, h⟩ := bind_eq_ok_iff.1 h
    refine bind_eq_ok_iff.2 ⟨listed, hl, ?_⟩
    cases hf : listed.find? (·.name.isNamed function) with
    | none =>
      rw [hf] at h
      cases h
    | some f =>
      rw [hf] at h
      exact h

namespace Generation

section Recorded

variable {s : Setting} {c : Config} {d : Database} {ds : List Database} {before before' : List Call}
  {now : Calendar.Moment} (hk : s.catalog.Recorded)

include hk

/-! The time of a run shows in no model. -/

theorem map_ofFunction_of_probeAll (folder : Path) {fs : List Callable} {ps ps' : List Probed}
    (h : probeAll s d before fs = .ok ps) (h' : probeAll { s with now } d before' fs = .ok ps') :
    ps'.map (Entity.ofFunction { s with now } c folder) = ps.map (Entity.ofFunction s c folder) := by
  induction fs generalizing before before' ps ps' with
  | nil =>
    cases h
    cases h'
    rfl
  | cons f fs ih =>
    obtain ⟨arguments, columns, rest, _, hcolumns, hr, rfl⟩ := probeAll_cons_ok_iff.1 h
    obtain ⟨arguments', columns', rest', _, hcolumns', hr', rfl⟩ := probeAll_cons_ok_iff.1 h'
    cases (hk.probe before before' f.name arguments arguments' d.name columns hcolumns).symm.trans hcolumns'
    rw [List.map_cons, List.map_cons, ih hr hr']
    rfl

theorem entities_of_surveyDatabase {r r' : Report} (h : surveyDatabase s c before d = .ok r)
    (h' : surveyDatabase { s with now } c before' d = .ok r') : r'.entities { s with now } c = r.entities s c := by
  obtain ⟨rows, folder, listings, fs, ps, ht, hf, hl, hfs, hps, rfl⟩ := surveyDatabase_ok_iff.1 h
  obtain ⟨rows', folder', listings', fs', ps', ht', hf', hl', hfs', hps', rfl⟩ := surveyDatabase_ok_iff.1 h'
  cases (hk.tables before before' d.name ▸ ht).symm.trans ht'
  cases hf.symm.trans hf'
  cases (hk.functions _ _ d.name ▸ hl).symm.trans hl'
  cases hfs.symm.trans hfs'
  rw [Report.entities, Report.entities, map_ofFunction_of_probeAll hk folder hps hps']
  rfl

theorem entities_of_survey {rs rs' : List Report} (h : survey s c before ds = .ok rs)
    (h' : survey { s with now } c before' ds = .ok rs') : entities { s with now } c rs' = entities s c rs := by
  induction ds generalizing before before' rs rs' with
  | nil =>
    cases h
    cases h'
    rfl
  | cons d ds ih =>
    obtain ⟨r, rest, hr, hs, rfl⟩ := survey_cons_ok_iff.1 h
    obtain ⟨r', rest', hr', hs', rfl⟩ := survey_cons_ok_iff.1 h'
    have hrest := ih hs hs'
    rw [entities] at hrest ⊢
    rw [List.flatMap_cons, hrest, entities_of_surveyDatabase hk hr hr']
    rfl

theorem outputs_of_survey {rs rs' : List Report} (h : survey s c before ds = .ok rs)
    (h' : survey { s with now } c before' ds = .ok rs') : outputs { s with now } c rs' = outputs s c rs := by
  rw [outputs, outputs, artifacts, artifacts, entities_of_survey hk h h']
  rfl

/-! What was told once is told again while the calendar lasts. -/

section Told

variable (hnow : s.now.utc?.isSome → now.utc?.isSome)

include hnow

omit hk in
theorem exists_argumentLiteral {type literal : String} (h : argumentLiteral s.now type = .ok literal) :
    ∃ literal', argumentLiteral now type = .ok literal' := by
  unfold argumentLiteral at h ⊢
  cases hk : Scalar.ofName type with
  | datetime =>
    rw [hk] at h
    cases hs : s.now.utc? with
    | none => simp [Scalar.literal, hs] at h
    | some l =>
      obtain ⟨l', hl'⟩ := Option.isSome_iff_exists.1 (hnow (by simp [hs]))
      exact ⟨instantLiteral l', by simp [Scalar.literal, hl']⟩
  | _ => exact ⟨_, rfl⟩

omit hk in
theorem exists_literals {ps : List Parameter} {arguments : List String}
    (h : ps.mapM (fun p => argumentLiteral s.now p.type) = .ok arguments) :
    ∃ arguments', ps.mapM (fun p => argumentLiteral now p.type) = .ok arguments' := by
  induction ps generalizing arguments with
  | nil => exact ⟨[], rfl⟩
  | cons p ps ih =>
    rw [List.mapM_cons] at h
    obtain ⟨literal, hp, h⟩ := bind_eq_ok_iff.1 h
    obtain ⟨rest, hr, _⟩ := bind_eq_ok_iff.1 h
    obtain ⟨literal', hp'⟩ := exists_argumentLiteral hnow hp
    obtain ⟨rest', hr'⟩ := ih hr
    exact ⟨literal' :: rest', by rw [List.mapM_cons, hp', hr']; rfl⟩

theorem exists_probeAll {fs : List Callable} {ps : List Probed} (h : probeAll s d before fs = .ok ps)
    (before' : List Call) : ∃ ps', probeAll { s with now } d before' fs = .ok ps' := by
  induction fs generalizing before before' ps with
  | nil => exact ⟨[], rfl⟩
  | cons f fs ih =>
    obtain ⟨arguments, columns, rest, ha, hcolumns, hr, rfl⟩ := probeAll_cons_ok_iff.1 h
    obtain ⟨arguments', ha'⟩ := exists_literals hnow ha
    have hcolumns' := hk.probe before before' f.name arguments arguments' d.name columns hcolumns
    obtain ⟨rest', hr'⟩ := ih hr (.probe f.name arguments' d.name :: before')
    exact ⟨_, probeAll_cons_ok_iff.2 ⟨arguments', columns, rest', ha', hcolumns', hr', rfl⟩⟩

theorem exists_surveyDatabase {r : Report} (h : surveyDatabase s c before d = .ok r) (before' : List Call) :
    ∃ r', surveyDatabase { s with now } c before' d = .ok r' := by
  obtain ⟨rows, folder, listings, fs, ps, ht, hf, hl, hfs, hps, rfl⟩ := surveyDatabase_ok_iff.1 h
  obtain ⟨ps', hps'⟩ := exists_probeAll hk hnow hps (.functions d.name :: .tables d.name :: before')
  exact ⟨_, surveyDatabase_ok_iff.2 ⟨rows, folder, listings, fs, ps', hk.tables before before' d.name ▸ ht, hf,
    hk.functions _ _ d.name ▸ hl, hfs, hps', rfl⟩⟩

theorem exists_survey {rs : List Report} (h : survey s c before ds = .ok rs) (before' : List Call) :
    ∃ rs', survey { s with now } c before' ds = .ok rs' := by
  induction ds generalizing before before' rs with
  | nil => exact ⟨[], rfl⟩
  | cons d ds ih =>
    obtain ⟨r, rest, hr, hs, rfl⟩ := survey_cons_ok_iff.1 h
    obtain ⟨r', hr'⟩ := exists_surveyDatabase hk hnow hr before'
    obtain ⟨rest', hs'⟩ := ih hs (r'.calls.reverse ++ before')
    exact ⟨r' :: rest', survey_cons_ok_iff.2 ⟨r', rest', hr', hs', rfl⟩⟩

end Told
end Recorded

/-! A snapshot with a single table. -/

def singleSnapshot : Snapshot :=
  ⟨[(.text "D", .map [(.text "tables", .map [(.text "T", .map [(.text "a", .text "System.Int32")])])])]⟩

def singleSetting : Setting := ⟨singleSnapshot.catalog, {}, .first⟩

/-- What it tells about the database when the models go to a folder. -/
def reportsIn (folder : Path) : List Report :=
  [⟨⟨"D", none, {}⟩, folder, [⟨"T", "a", "System.Int32"⟩], [], []⟩]

section Single

variable {c : Config} {folder : Path}

theorem survey_reportsIn (hm : c.modelsFolder = some folder) (hd : c.databases = [⟨"D", none, {}⟩]) :
    survey singleSetting c [] c.databases = .ok (reportsIn folder) := by
  have hf : c.folderOf ⟨"D", none, {}⟩ = .ok folder := by
    rw [Config.folderOf, hm]
    rfl
  have hr : surveyDatabase singleSetting c [] ⟨"D", none, {}⟩ =
      .ok ⟨⟨"D", none, {}⟩, folder, [⟨"T", "a", "System.Int32"⟩], [], []⟩ :=
    surveyDatabase_ok_iff.2 ⟨_, _, [], [], [], rfl, hf, rfl, rfl, rfl, rfl⟩
  rw [hd]
  exact survey_cons_ok_iff.2 ⟨_, [], hr, rfl, rfl⟩

variable (hf : c.filters = {})

include hf

theorem entities_reportsIn : entities singleSetting c (reportsIn folder) =
    [⟨folder, .ofTable "T", [⟨"a", "System.Int32"⟩]⟩] := by
  simp only [entities, reportsIn, List.flatMap_cons, List.flatMap_nil, Report.entities, Report.keptRows,
    Config.rulesForTables, hf]
  rfl

theorem artifacts_reportsIn : artifacts singleSetting c (reportsIn folder) = [.ofTable "T"] := by
  rw [artifacts, entities_reportsIn hf]
  rfl

theorem outputs_reportsIn : ∃ text, outputs singleSetting c (reportsIn folder) =
    ⟨modelPath folder "T", text⟩ :: contextOutput c [.ofTable "T"] := by
  refine ⟨modelText singleSetting c "T" [⟨"a", "System.Int32"⟩], ?_⟩
  rw [outputs, artifacts_reportsIn hf, entities_reportsIn hf]
  rfl

end Single

/-- The models go to a folder in the directory that paths start from. -/
def singleReports : List Report :=
  [⟨⟨"D", none, {}⟩, ⟨0, ["m"]⟩, [⟨"T", "a", "System.Int32"⟩], [], []⟩]

theorem survey_single {c : Config} (hm : c.modelsFolder = some ⟨0, ["m"]⟩) (hd : c.databases = [⟨"D", none, {}⟩]) :
    survey singleSetting c [] c.databases = .ok singleReports := survey_reportsIn hm hd

theorem artifacts_single {c : Config} (hf : c.filters = {}) :
    artifacts singleSetting c singleReports = [.ofTable "T"] := artifacts_reportsIn hf

theorem outputs_single {c : Config} (hf : c.filters = {}) : ∃ text, outputs singleSetting c singleReports =
    ⟨⟨0, ["m", "T.cs"]⟩, text⟩ :: contextOutput c [.ofTable "T"] := by
  have hpath : modelPath ⟨0, ["m"]⟩ "T" = ⟨0, ["m", "T.cs"]⟩ := by decide +kernel
  rw [← hpath]
  exact outputs_reportsIn hf

end Generation
end EntityGen
