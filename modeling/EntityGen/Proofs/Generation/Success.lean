import EntityGen.Proofs.Generation.Survey
import EntityGen.Proofs.Run

/-! When the parts of a run succeed, and what they leave then. -/

namespace EntityGen.Generation

open Run

variable {s : Setting} {c : Config} {d : Database} {folder p : Path} {j j' : Journal}

def writeFailure (p : Path) : Trouble → Failure :=
  failureOf fun r => .filesystem (.writeFile r) p.text

theorem outcome_writeText (p : Path) (text : String) (j : Journal) : outcome (writeText p text) j =
    match outcome (Output.save ⟨p, text⟩) j.disk with
    | (.ok _, d') => (.ok (), ⟨d', j.events ++ [.wrote p text]⟩)
    | (.error t, d') => (.error (writeFailure p t), ⟨d', j.events⟩) := by
  have h : outcome (writeText p text) j = outcome (do
      act (fun r => .filesystem (.writeFile r) p.text) (Output.save ⟨p, text⟩)
      note (.wrote p text)) j := rfl
  rw [h, outcome_bind, outcome_act]
  rcases outcome (Output.save ⟨p, text⟩) j.disk with ⟨_ | _, d'⟩ <;> rfl

/-- Items are done one after the other, and what is asked for one may depend on the calls before it. Answers, texts
and events of all of them follow one another. -/
theorem mapM_eq_ok_iff_of_each {α β ρ : Type} {f : α → Run β} (answer : List Call → α → ρ → Prop)
    (answers : List Call → List α → List ρ → Prop) (texts : ρ → List Output) (told : ρ → β)
    (events : ρ → List Event) (hnil : ∀ {before rs}, answers before [] rs ↔ rs = [])
    (hcons : ∀ {before a as rs}, answers before (a :: as) rs ↔ ∃ r rest, answer before a r ∧
      answers (((events r).filterMap Event.call?).reverse ++ before) as rest ∧ rs = r :: rest)
    (hf : ∀ {a j b j'}, outcome (f a) j = (.ok b, j') ↔ ∃ r d', answer j.calls a r ∧
      outcome ((texts r).forM Output.save) j.disk = (.ok (), d') ∧ b = told r ∧
        j' = ⟨d', j.events ++ events r⟩) {as : List α} {bs : List β} :
    outcome (as.mapM f) j = (.ok bs, j') ↔ ∃ rs d', answers j.calls as rs ∧
      outcome ((rs.flatMap texts).forM Output.save) j.disk = (.ok (), d') ∧ bs = rs.map told ∧
        j' = ⟨d', j.events ++ rs.flatMap events⟩ := by
  induction as generalizing j bs with
  | nil =>
    constructor
    · intro h
      cases h
      exact ⟨[], _, hnil.2 rfl, rfl, rfl, by rw [List.flatMap_nil, List.append_nil]⟩
    · rintro ⟨rs, d', hrs, h, rfl, rfl⟩
      cases hnil.1 hrs
      cases h
      rw [List.flatMap_nil, List.append_nil]
      rfl
  | cons a as ih =>
    simp only [outcome_mapM_cons_eq_ok_iff, hf, ih, hcons]
    have hcalls : ∀ r d', (Journal.mk d' (j.events ++ events r)).calls =
        ((events r).filterMap Event.call?).reverse ++ j.calls := fun r d' => calls_append d' j.disk _ _
    constructor
    · rintro ⟨_, _, _, ⟨r, d₁, hr, h₁, rfl, rfl⟩, ⟨rs, d₂, hrs, h₂, rfl, rfl⟩, rfl⟩
      rw [hcalls] at hrs
      refine ⟨r :: rs, d₂, ⟨r, rs, hr, hrs, rfl⟩, ?_, rfl, ?_⟩
      · exact outcome_forM_append_eq_ok_iff.2 ⟨d₁, h₁, h₂⟩
      · rw [List.flatMap_cons, List.append_assoc]
    · rintro ⟨_, d₂, ⟨r, rs, hr, hrs, rfl⟩, h, rfl, rfl⟩
      obtain ⟨d₁, h₁, h₂⟩ := outcome_forM_append_eq_ok_iff.1 h
      refine ⟨_, _, _, ⟨r, d₁, hr, h₁, rfl, rfl⟩, ⟨rs, d₂, ?_, h₂, rfl, ?_⟩, rfl⟩
      · rwa [hcalls]
      · rw [List.flatMap_cons, List.append_assoc]

theorem addModel_eq_ok_iff {name : String} {columns : List Column} {q : Path} :
    outcome (addModel s c folder name columns) j = (.ok q, j') ↔
      ∃ d', outcome (Output.save ⟨modelPath folder name, modelText s c name columns⟩) j.disk = (.ok (), d') ∧
        q = modelPath folder name ∧
          j' = ⟨d', j.events ++ [.wrote (modelPath folder name) (modelText s c name columns)]⟩ := by
  simp only [addModel, outcome_bind, outcome_writeText]
  rcases outcome (Output.save ⟨modelPath folder name, modelText s c name columns⟩) j.disk with ⟨_ | _, d'⟩
  · simp
  · simp [eq_comm]

def tableEvents (s : Setting) (c : Config) (e : Entity) : List Event :=
  [.started e.name, .wrote e.path (e.output s c).text, .finished e.name]

theorem generateTable_eq_ok_iff {t : Table} {w : Written} :
    outcome (generateTable s c folder t) j = (.ok w, j') ↔
      ∃ d', outcome ((Entity.ofTable folder t).output s c).save j.disk = (.ok (), d') ∧
        w = (Entity.ofTable folder t).written ∧
          j' = ⟨d', j.events ++ tableEvents s c (.ofTable folder t)⟩ := by
  rw [generateTable, outcome_note_bind, outcome_bind_eq_ok_iff]
  constructor
  · rintro ⟨q, j₁, h, h'⟩
    obtain ⟨d', hs, rfl, rfl⟩ := addModel_eq_ok_iff.1 h
    cases h'
    refine ⟨d', hs, rfl, ?_⟩
    dsimp only
    rw [List.append_assoc, List.append_assoc]
    rfl
  · rintro ⟨d', hs, rfl, rfl⟩
    refine ⟨_, _, addModel_eq_ok_iff.2 ⟨d', hs, rfl, rfl⟩, ?_⟩
    rw [outcome_note_bind, List.append_assoc, List.append_assoc]
    rfl

theorem mapM_generateTable_eq_ok_iff {ts : List Table} {ws : List Written} :
    outcome (ts.mapM (generateTable s c folder)) j = (.ok ws, j') ↔
      ∃ d', outcome ((ts.map fun t => (Entity.ofTable folder t).output s c).forM Output.save) j.disk =
          (.ok (), d') ∧
        ws = ts.map (fun t => (Entity.ofTable folder t).written) ∧
          j' = ⟨d', j.events ++ ts.flatMap fun t => tableEvents s c (.ofTable folder t)⟩ := by
  rw [mapM_eq_ok_iff_of_each (fun _ t t' => t' = t) (fun _ ts ts' => ts' = ts)
    (fun t => [(Entity.ofTable folder t).output s c]) (fun t => (Entity.ofTable folder t).written)
    (fun t => tableEvents s c (.ofTable folder t)) Iff.rfl (by simp) (by simp [generateTable_eq_ok_iff])]
  simp [← List.map_eq_flatMap]

/-! Functions, which are probed between the writes. -/

def functionEvents (s : Setting) (c : Config) (d : Database) (folder : Path) (f : Probed) : List Event :=
  let e := Entity.ofFunction s c folder f
  [.started e.name, .called (Report.probeCall d f), .wrote e.path (e.output s c).text, .finished e.name]

theorem probe_eq_ok_iff {f : Callable} {columns : List Column} :
    outcome (probe s d f) j = (.ok columns, j') ↔ ∃ arguments,
      f.parameters.mapM (fun p => argumentLiteral s.now p.type) = .ok arguments ∧
        s.catalog.probe j.calls f.name arguments d.name = .ok columns ∧
          j' = ⟨j.disk, j.events ++ [.called (.probe f.name arguments d.name)]⟩ := by
  rw [probe]
  cases f.parameters.mapM fun p => argumentLiteral s.now p.type with
  | error e => simp
  | ok arguments => simp [outcome_call, eq_comm]

/-- What a probe of a function finds after these calls. -/
structure Finds (s : Setting) (d : Database) (before : List Call) (f : Callable) (p : Probed) : Prop where
  callable : p.callable = f
  arguments : f.parameters.mapM (fun q => argumentLiteral s.now q.type) = .ok p.arguments
  columns : s.catalog.probe before f.name p.arguments d.name = .ok p.columns

theorem probeAll_cons_iff_finds {before : List Call} {f : Callable} {fs : List Callable} {ps : List Probed} :
    probeAll s d before (f :: fs) = .ok ps ↔ ∃ p rest, Finds s d before f p ∧
      probeAll s d (Report.probeCall d p :: before) fs = .ok rest ∧ ps = p :: rest := by
  rw [probeAll_cons_ok_iff]
  constructor
  · rintro ⟨arguments, columns, rest, ha, hc, hr, rfl⟩
    exact ⟨⟨f, arguments, columns⟩, rest, ⟨rfl, ha, hc⟩, hr, rfl⟩
  · rintro ⟨⟨_, arguments, columns⟩, rest, ⟨rfl, ha, hc⟩, hr, rfl⟩
    exact ⟨arguments, columns, rest, ha, hc, hr, rfl⟩

theorem generateFunction_eq_ok_iff {f : Callable} {w : Written} :
    outcome (generateFunction s c d folder f) j = (.ok w, j') ↔ ∃ p d', Finds s d j.calls f p ∧
      outcome ((Entity.ofFunction s c folder p).output s c).save j.disk = (.ok (), d') ∧
        w = (Entity.ofFunction s c folder p).written ∧
          j' = ⟨d', j.events ++ functionEvents s c d folder p⟩ := by
  have hcalls : (Journal.mk j.disk (j.events ++ [.started f.name])).calls = j.calls := calls_append _ _ _ _
  rw [generateFunction, outcome_note_bind, outcome_bind_eq_ok_iff]
  constructor
  · rintro ⟨columns, j₁, hp, h⟩
    obtain ⟨arguments, ha, hc, rfl⟩ := probe_eq_ok_iff.1 hp
    obtain ⟨q, j₂, hm, h'⟩ := outcome_bind_eq_ok_iff.1 h
    obtain ⟨d', hs, rfl, rfl⟩ := addModel_eq_ok_iff.1 hm
    cases h'
    refine ⟨⟨f, arguments, columns⟩, d', ⟨rfl, ha, hcalls ▸ hc⟩, hs, rfl, ?_⟩
    dsimp only
    rw [List.append_assoc, List.append_assoc, List.append_assoc]
    rfl
  · rintro ⟨⟨_, arguments, columns⟩, d', ⟨rfl, ha, hc⟩, hs, rfl, rfl⟩
    refine ⟨columns, _, probe_eq_ok_iff.2 ⟨arguments, ha, hcalls.symm ▸ hc, rfl⟩, ?_⟩
    refine outcome_bind_eq_ok_iff.2 ⟨_, _, addModel_eq_ok_iff.2 ⟨d', hs, rfl, rfl⟩, ?_⟩
    rw [outcome_note_bind, List.append_assoc, List.append_assoc, List.append_assoc]
    rfl

theorem mapM_generateFunction_eq_ok_iff {fs : List Callable} {ws : List Written} :
    outcome (fs.mapM (generateFunction s c d folder)) j = (.ok ws, j') ↔ ∃ ps d',
      probeAll s d j.calls fs = .ok ps ∧
        outcome ((ps.map fun p => (Entity.ofFunction s c folder p).output s c).forM Output.save) j.disk =
            (.ok (), d') ∧
          ws = ps.map (fun p => (Entity.ofFunction s c folder p).written) ∧
            j' = ⟨d', j.events ++ ps.flatMap (functionEvents s c d folder)⟩ := by
  rw [mapM_eq_ok_iff_of_each (Finds s d) (fun before fs ps => probeAll s d before fs = .ok ps)
    (fun p => [(Entity.ofFunction s c folder p).output s c])
    (fun p => (Entity.ofFunction s c folder p).written) (functionEvents s c d folder)]
  · simp [← List.map_eq_flatMap]
  · simp [probeAll, pure, Except.pure, eq_comm]
  · exact probeAll_cons_iff_finds
  · simp [generateFunction_eq_ok_iff]

/-! All of a database. -/

def databaseEvents (s : Setting) (c : Config) (r : Report) : List Event :=
  [.database r.database.name, .section "Tables", .called (.tables r.database.name)] ++
    ((Table.ofRows (r.keptRows c)).flatMap fun t => tableEvents s c (.ofTable r.folder t)) ++
      [.section "Functions", .called (.functions r.database.name)] ++
        r.functions.flatMap (functionEvents s c r.database r.folder)

@[simp] theorem filterMap_call?_tables (s : Setting) (c : Config) (folder : Path) (ts : List Table) :
    (ts.flatMap fun t => tableEvents s c (.ofTable folder t)).filterMap Event.call? = [] := by
  induction ts with
  | nil => rfl
  | cons t ts ih =>
    rw [List.flatMap_cons, List.filterMap_append, ih]
    rfl

@[simp] theorem filterMap_call?_functions (s : Setting) (c : Config) (d : Database) (folder : Path)
    (fs : List Probed) :
    (fs.flatMap (functionEvents s c d folder)).filterMap Event.call? = fs.map (Report.probeCall d) := by
  induction fs with
  | nil => rfl
  | cons f fs ih =>
    rw [List.flatMap_cons, List.filterMap_append, ih]
    rfl

theorem filterMap_call?_databaseEvents (s : Setting) (c : Config) (r : Report) :
    (databaseEvents s c r).filterMap Event.call? = r.calls := by
  simp [databaseEvents, Report.calls, Event.call?, List.filterMap_cons]

theorem tablesOf_eq_ok_iff {ts : List Table} : outcome (tablesOf s c d) j = (.ok ts, j') ↔ ∃ rows,
    s.catalog.tables j.calls d.name = .ok rows ∧
      ts = Table.ofRows (filterBy (c.rulesForTables d) TableRow.table rows) ∧
        j' = ⟨j.disk, j.events ++ [.called (.tables d.name)]⟩ := by
  rw [tablesOf, outcome_bind, outcome_call]
  cases s.catalog.tables j.calls d.name with
  | error f => simp
  | ok rows => simp [eq_comm]

theorem functionsOf_eq_ok_iff {fs : List Callable} : outcome (functionsOf s c d) j = (.ok fs, j') ↔ ∃ listings,
    s.catalog.functions j.calls d.name = .ok listings ∧
      (filterBy (c.rulesForFunctions d) FunctionListing.name listings).mapM (parseFunction d.name) = .ok fs ∧
        j' = ⟨j.disk, j.events ++ [.called (.functions d.name)]⟩ := by
  rw [functionsOf, outcome_bind, outcome_call]
  cases s.catalog.functions j.calls d.name with
  | error f => simp
  | ok listings =>
    cases h : (filterBy (c.rulesForFunctions d) FunctionListing.name listings).mapM (parseFunction d.name) with
    | error f => simp [h]
    | ok fs => simp [h, eq_comm]

theorem folderFor_eq_ok_iff : outcome (folderFor c d) j = (.ok folder, j') ↔
    c.folderOf d = .ok folder ∧ j' = j := by
  rw [folderFor]
  cases c.folderOf d with
  | error f => simp
  | ok folder => simp [eq_comm]

theorem generateDatabase_eq_ok_iff {ws : List Written} :
    outcome (generateDatabase s c d) j = (.ok ws, j') ↔ ∃ r d',
      surveyDatabase s c j.calls d = .ok r ∧
        outcome (((r.entities s c).map (Entity.output s c)).forM Output.save) j.disk = (.ok (), d') ∧
          ws = (r.entities s c).map Entity.written ∧
            j' = ⟨d', j.events ++ databaseEvents s c r⟩ := by
  rw [generateDatabase, outcome_note_bind, outcome_note_bind]
  constructor
  · intro h
    obtain ⟨ts, j₁, ht, h⟩ := outcome_bind_eq_ok_iff.1 h
    obtain ⟨rows, hrows, rfl, rfl⟩ := tablesOf_eq_ok_iff.1 ht
    obtain ⟨folder, j₂, hf, h⟩ := outcome_bind_eq_ok_iff.1 h
    obtain ⟨hfolder, rfl⟩ := folderFor_eq_ok_iff.1 hf
    obtain ⟨first, j₃, hg, h⟩ := outcome_bind_eq_ok_iff.1 h
    obtain ⟨d₁, h₁, rfl, rfl⟩ := mapM_generateTable_eq_ok_iff.1 hg
    rw [outcome_note_bind] at h
    obtain ⟨fs, j₄, hfs, h⟩ := outcome_bind_eq_ok_iff.1 h
    obtain ⟨listings, hl, hc, rfl⟩ := functionsOf_eq_ok_iff.1 hfs
    obtain ⟨second, j₅, hg', h⟩ := outcome_bind_eq_ok_iff.1 h
    obtain ⟨ps, d₂, hp, h₂, rfl, rfl⟩ := mapM_generateFunction_eq_ok_iff.1 hg'
    cases h
    simp only [Journal.calls, List.filterMap_append, filterMap_call?_tables, Event.call?, List.filterMap_cons,
      List.filterMap_nil, List.append_nil, List.reverse_append, List.reverse_cons, List.reverse_nil,
      List.nil_append, List.singleton_append] at hrows hl hp
    refine ⟨⟨d, folder, rows, listings, ps⟩, d₂, ?_, ?_, ?_, ?_⟩
    · exact surveyDatabase_ok_iff.2 ⟨rows, folder, listings, fs, ps, hrows, hfolder, hl, hc, hp, rfl⟩
    · rw [Report.entities, List.map_append, outcome_forM_append_eq_ok_iff, List.map_map, List.map_map]
      exact ⟨d₁, h₁, h₂⟩
    · rw [Report.entities, List.map_append, List.map_map, List.map_map]
      rfl
    · simp [databaseEvents, Report.keptRows]
  · rintro ⟨r, d₂, hr, ho, rfl, rfl⟩
    obtain ⟨rows, folder, listings, fs, ps, hrows, hfolder, hl, hc, hp, rfl⟩ := surveyDatabase_ok_iff.1 hr
    rw [Report.entities, List.map_append, outcome_forM_append_eq_ok_iff, List.map_map, List.map_map] at ho
    obtain ⟨d₁, h₁, h₂⟩ := ho
    refine outcome_bind_eq_ok_iff.2 ⟨_, _, tablesOf_eq_ok_iff.2 ⟨rows, ?_, rfl, rfl⟩, ?_⟩
    · simpa [Journal.calls, Event.call?, List.filterMap_cons] using hrows
    refine outcome_bind_eq_ok_iff.2 ⟨_, _, folderFor_eq_ok_iff.2 ⟨hfolder, rfl⟩, ?_⟩
    refine outcome_bind_eq_ok_iff.2 ⟨_, _, mapM_generateTable_eq_ok_iff.2 ⟨d₁, h₁, rfl, rfl⟩, ?_⟩
    rw [outcome_note_bind]
    refine outcome_bind_eq_ok_iff.2 ⟨_, _, functionsOf_eq_ok_iff.2 ⟨listings, ?_, hc, rfl⟩, ?_⟩
    · simpa [Journal.calls, Event.call?, List.filterMap_cons] using hl
    refine outcome_bind_eq_ok_iff.2 ⟨_, _, mapM_generateFunction_eq_ok_iff.2 ⟨ps, d₂, ?_, h₂, rfl, rfl⟩, ?_⟩
    · simpa [Journal.calls, Event.call?, List.filterMap_cons] using hp
    simp [databaseEvents, Report.keptRows, Report.entities, Function.comp_def]

/-! All databases. -/

/-- The models of all databases in the order in which they are written. -/
def entities (s : Setting) (c : Config) (rs : List Report) : List Entity := rs.flatMap (Report.entities s c)

theorem mapM_generateDatabase_eq_ok_iff {ds : List Database} {wss : List (List Written)} :
    outcome (ds.mapM (generateDatabase s c)) j = (.ok wss, j') ↔ ∃ rs d',
      survey s c j.calls ds = .ok rs ∧
        outcome (((entities s c rs).map (Entity.output s c)).forM Output.save) j.disk = (.ok (), d') ∧
          wss = rs.map (fun r => (r.entities s c).map Entity.written) ∧
            j' = ⟨d', j.events ++ rs.flatMap (databaseEvents s c)⟩ := by
  rw [mapM_eq_ok_iff_of_each (fun before d r => surveyDatabase s c before d = .ok r)
    (fun before ds rs => survey s c before ds = .ok rs) (fun r => (r.entities s c).map (Entity.output s c))
    (fun r => (r.entities s c).map Entity.written) (databaseEvents s c)]
  · simp [entities, List.map_flatMap]
  · simp [survey, pure, Except.pure, eq_comm]
  · simp [survey_cons_ok_iff, filterMap_call?_databaseEvents]
  · exact generateDatabase_eq_ok_iff

/-! The context, and the run as a whole. -/

/-- Where the context goes if there is to be one. -/
def contextOutput (c : Config) (artifacts : List Artifact) : List Output :=
  if c.createContext then c.contextFile.toList.map fun file => ⟨file, contextText c artifacts⟩ else []

theorem contextOutput_of_no_context (hc : c.createContext = false) (artifacts : List Artifact) :
    contextOutput c artifacts = [] := by
  simp [contextOutput, hc]

theorem contextOutput_of_context {file : Path} (hc : c.createContext = true) (hf : c.contextFile = some file)
    (artifacts : List Artifact) : contextOutput c artifacts = [⟨file, contextText c artifacts⟩] := by
  simp [contextOutput, hc, hf]

theorem contextOutput_eq_or (c : Config) (artifacts : List Artifact) : contextOutput c artifacts = [] ∨
    ∃ file, c.contextFile = some file ∧ contextOutput c artifacts = [⟨file, contextText c artifacts⟩] := by
  cases hc : c.createContext with
  | false => exact .inl (contextOutput_of_no_context hc artifacts)
  | true =>
    cases hf : c.contextFile with
    | none => simp [contextOutput, hf]
    | some file => exact .inr ⟨file, rfl, contextOutput_of_context hc hf artifacts⟩

def contextEvents (c : Config) (artifacts : List Artifact) : List Event :=
  (contextOutput c artifacts).flatMap fun o => [.context o.path, .wrote o.path o.text]

theorem addContext_eq_ok_iff {artifacts : List Artifact} {written : Option Path} :
    outcome (addContext c artifacts) j = (.ok written, j') ↔
      (c.createContext = true → c.contextFile.isSome) ∧
        ∃ d', outcome ((contextOutput c artifacts).forM Output.save) j.disk = (.ok (), d') ∧
          written = ((contextOutput c artifacts).map (·.path)).head? ∧
            j' = ⟨d', j.events ++ contextEvents c artifacts⟩ := by
  rw [addContext]
  cases hc : c.createContext with
  | false =>
    simp only [contextOutput_of_no_context hc, contextEvents, List.flatMap_nil, List.append_nil]
    constructor
    · intro h
      cases h
      exact ⟨nofun, _, rfl, rfl, rfl⟩
    · rintro ⟨_, d', h, rfl, rfl⟩
      cases h
      rfl
  | true =>
    cases hf : c.contextFile with
    | none => simp
    | some file =>
      simp only [if_true, contextOutput_of_context hc hf, contextEvents, outcome_forM_cons]
      rw [outcome_note_bind, outcome_bind, outcome_writeText]
      rcases outcome (Output.save ⟨file, contextText c artifacts⟩) j.disk with ⟨_ | _, d'⟩
      · simp
      · simp [eq_comm]

theorem completed_eq_ok_iff {r : Config} : outcome (completed c) j = (.ok (r, folder), j') ↔
    c.complete = .ok r ∧ r.modelsFolder = some folder ∧ j' = j := by
  rw [completed]
  cases c.complete with
  | error f => simp
  | ok r₁ =>
    dsimp only
    cases hf : r₁.modelsFolder with
    | none =>
      constructor
      · nofun
      · rintro ⟨h, hr, _⟩
        cases h
        rw [hf] at hr
        cases hr
    | some folder₁ =>
      constructor
      · intro h
        cases h
        exact ⟨rfl, hf, rfl⟩
      · rintro ⟨h, hr, rfl⟩
        cases h
        rw [hf] at hr
        cases hr
        rfl

def artifacts (s : Setting) (c : Config) (rs : List Report) : List Artifact :=
  (entities s c rs).map (·.artifact)

theorem map_artifact_written (s : Setting) (c : Config) (rs : List Report) :
    ((rs.map fun r => (r.entities s c).map Entity.written).flatten.map fun w => w.artifact) =
      artifacts s c rs := by
  rw [← List.flatMap_def, ← List.map_flatMap, List.map_map]
  rfl

theorem map_path_written (s : Setting) (c : Config) (rs : List Report) :
    ((rs.map fun r => (r.entities s c).map Entity.written).flatten.map fun w => w.path) =
      (entities s c rs).map Entity.path := by
  rw [← List.flatMap_def, ← List.map_flatMap, List.map_map]
  rfl

/-- All that is written, the context last. -/
def outputs (s : Setting) (c : Config) (rs : List Report) : List Output :=
  (entities s c rs).map (Entity.output s c) ++ contextOutput c (artifacts s c rs)

/-- What a run with these answers produces. -/
def summary (s : Setting) (c : Config) (rs : List Report) (bytes : Nat) : Summary where
  artifacts := artifacts s c rs
  modelPaths := (entities s c rs).map Entity.path
  contextPath := ((contextOutput c (artifacts s c rs)).map (·.path)).head?
  bytesCleaned := bytes

/-- A run succeeds if the folders can be made, the catalog answers and the texts can be written, and these
leave all that it leaves. -/
theorem runCompleted_eq_ok_iff {sm : Summary} :
    outcome (runCompleted s c folder) j = (.ok sm, j') ↔ ∃ bytes j₁ rs d',
      outcome (prepare c folder) j = (.ok bytes, j₁) ∧
        survey s c j₁.calls c.databases = .ok rs ∧
          (c.createContext = true → c.contextFile.isSome) ∧
            outcome ((outputs s c rs).forM Output.save) j₁.disk = (.ok (), d') ∧
              sm = summary s c rs bytes ∧
                j' = ⟨d', j₁.events ++ [.prepared bytes] ++ rs.flatMap (databaseEvents s c) ++
                  contextEvents c (artifacts s c rs)⟩ := by
  have hcalls : ∀ (j₁ : Journal) bytes, (Journal.mk j₁.disk (j₁.events ++ [.prepared bytes])).calls = j₁.calls :=
    fun _ _ => calls_append _ _ _ _
  rw [runCompleted, outcome_bind_eq_ok_iff]
  constructor
  · rintro ⟨bytes, j₁, hp, h⟩
    rw [outcome_note_bind] at h
    obtain ⟨wss, j₂, hw, h⟩ := outcome_bind_eq_ok_iff.1 h
    obtain ⟨rs, d₁, hs, h₁, rfl, rfl⟩ := mapM_generateDatabase_eq_ok_iff.1 hw
    simp only [map_artifact_written, map_path_written] at h
    obtain ⟨written, j₃, hc, h⟩ := outcome_bind_eq_ok_iff.1 h
    obtain ⟨hcf, d₂, h₂, rfl, rfl⟩ := addContext_eq_ok_iff.1 hc
    cases h
    refine ⟨bytes, j₁, rs, d₂, hp, ?_, hcf, ?_, rfl, rfl⟩
    · rwa [hcalls] at hs
    · exact outcome_forM_append_eq_ok_iff.2 ⟨d₁, h₁, h₂⟩
  · rintro ⟨bytes, j₁, rs, d₂, hp, hs, hcf, ho, rfl, rfl⟩
    obtain ⟨d₁, h₁, h₂⟩ := outcome_forM_append_eq_ok_iff.1 ho
    refine ⟨bytes, j₁, hp, ?_⟩
    rw [outcome_note_bind]
    refine outcome_bind_eq_ok_iff.2 ⟨_, _, mapM_generateDatabase_eq_ok_iff.2 ⟨rs, d₁, ?_, h₁, rfl, rfl⟩, ?_⟩
    · rwa [hcalls]
    simp only [map_artifact_written, map_path_written]
    exact outcome_bind_eq_ok_iff.2 ⟨_, _, addContext_eq_ok_iff.2 ⟨hcf, d₂, h₂, rfl, rfl⟩, rfl⟩

theorem run_eq_ok_iff {sm : Summary} : outcome (run s c) j = (.ok sm, j') ↔ ∃ r folder,
    c.complete = .ok r ∧ r.modelsFolder = some folder ∧
      outcome (runCompleted s r folder) j = (.ok sm, j') := by
  rw [run, outcome_bind_eq_ok_iff]
  constructor
  · rintro ⟨⟨r, folder⟩, j₁, hc, h⟩
    obtain ⟨hr, hf, rfl⟩ := completed_eq_ok_iff.1 hc
    exact ⟨r, folder, hr, hf, h⟩
  · rintro ⟨r, folder, hr, hf, h⟩
    exact ⟨(r, folder), j, completed_eq_ok_iff.2 ⟨hr, hf, rfl⟩, h⟩

end EntityGen.Generation
