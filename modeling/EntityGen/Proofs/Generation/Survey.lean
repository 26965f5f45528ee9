import EntityGen.Generation
import EntityGen.Proofs.Generation.Output
import EntityGen.Proofs.Schema.Table

/-! What a catalog tells in the course of a run, and the models that follow from it. -/

namespace EntityGen.Generation

/-- A function with the arguments of its probe and the columns that were found. -/
structure Probed where
  callable : Callable
  arguments : List String
  columns : List Column
  deriving DecidableEq

/-- What a catalog tells about a database. -/
structure Report where
  database : Database
  folder : Path
  rows : List TableRow
  listings : List FunctionListing
  functions : List Probed
  deriving DecidableEq

/-- What a table or a function becomes. -/
structure Entity where
  folder : Path
  artifact : Artifact
  columns : List Column
  deriving DecidableEq

namespace Entity

def ofTable (folder : Path) (t : Table) : Entity := ⟨folder, .ofTable t.name, t.columns⟩

def ofFunction (s : Setting) (c : Config) (folder : Path) (f : Probed) : Entity :=
  ⟨folder, .ofFunction s.types c.nullable f.callable.name f.callable.parameters, f.columns⟩

def name (e : Entity) : String := e.artifact.typeName

def path (e : Entity) : Path := modelPath e.folder e.name

def written (e : Entity) : Written := ⟨e.artifact, e.path⟩

def output (s : Setting) (c : Config) (e : Entity) : Output := ⟨e.path, modelText s c e.name e.columns⟩

end Entity

namespace Report

def probeCall (d : Database) (f : Probed) : Call := .probe f.callable.name f.arguments d.name

def calls (r : Report) : List Call :=
  .tables r.database.name :: .functions r.database.name :: r.functions.map (probeCall r.database)

def keptRows (c : Config) (r : Report) : List TableRow :=
  filterBy (c.rulesForTables r.database) TableRow.table r.rows

def keptListings (c : Config) (r : Report) : List FunctionListing :=
  filterBy (c.rulesForFunctions r.database) FunctionListing.name r.listings

def functionArtifact (s : Setting) (c : Config) (l : FunctionListing) : Artifact :=
  .ofFunction s.types c.nullable l.name ((Signature.parse? l.parameters).getD [])

/-- One artifact for each kept table name, and then one for each kept function. -/
def artifacts (s : Setting) (c : Config) (r : Report) : List Artifact :=
  ((r.keptRows c).map (·.table)).eraseDups.map .ofTable ++ (r.keptListings c).map (functionArtifact s c)

/-- First the tables and then the functions, all in the order in which they are told. -/
def entities (s : Setting) (c : Config) (r : Report) : List Entity :=
  (Table.ofRows (r.keptRows c)).map (.ofTable r.folder) ++ r.functions.map (.ofFunction s c r.folder)

end Report

section Survey

variable (s : Setting) (c : Config)

/-- Probes functions one after the other. The calls before are given, the latest one first. -/
def probeAll (d : Database) : List Call → List Callable → Except Failure (List Probed)
  | _, [] => return []
  | before, f :: rest => do
    let arguments ← f.parameters.mapM fun p => argumentLiteral s.now p.type
    let columns ← s.catalog.probe before f.name arguments d.name
    let found : Probed := ⟨f, arguments, columns⟩
    return found :: (← probeAll d (Report.probeCall d found :: before) rest)

def surveyDatabase (before : List Call) (d : Database) : Except Failure Report := do
  let rows ← s.catalog.tables before d.name
  let folder ← c.folderOf d
  let listings ← s.catalog.functions (.tables d.name :: before) d.name
  let kept := filterBy (c.rulesForFunctions d) FunctionListing.name listings
  let callables ← kept.mapM (parseFunction d.name)
  let functions ← probeAll s d (.functions d.name :: .tables d.name :: before) callables
  return ⟨d, folder, rows, listings, functions⟩

/-- What a catalog tells about databases one after the other if all calls succeed, and all functions that
the rules keep have a signature and default arguments. -/
def survey : List Call → List Database → Except Failure (List Report)
  | _, [] => return []
  | before, d :: rest => do
    let r ← surveyDatabase s c before d
    return r :: (← survey (r.calls.reverse ++ before) rest)

end Survey

variable {s : Setting} {c : Config} {d : Database} {before : List Call}

theorem probeAll_cons_ok_iff {f : Callable} {fs : List Callable} {ps : List Probed} :
    probeAll s d before (f :: fs) = .ok ps ↔ ∃ arguments columns rest,
      f.parameters.mapM (fun p => argumentLiteral s.now p.type) = .ok arguments ∧
        s.catalog.probe before f.name arguments d.name = .ok columns ∧
          probeAll s d (.probe f.name arguments d.name :: before) fs = .ok rest ∧
            ps = ⟨f, arguments, columns⟩ :: rest := by
  simp only [probeAll, bind_eq_ok_iff]
  constructor
  · rintro ⟨arguments, ha, columns, hc, rest, hr, h⟩
    cases h
    exact ⟨arguments, columns, rest, ha, hc, hr, rfl⟩
  · rintro ⟨arguments, columns, rest, ha, hc, hr, rfl⟩
    exact ⟨arguments, ha, columns, hc, rest, hr, rfl⟩

theorem surveyDatabase_ok_iff {r : Report} :
    surveyDatabase s c before d = .ok r ↔ ∃ rows folder listings callables functions,
      s.catalog.tables before d.name = .ok rows ∧ c.folderOf d = .ok folder ∧
        s.catalog.functions (.tables d.name :: before) d.name = .ok listings ∧
          (filterBy (c.rulesForFunctions d) FunctionListing.name listings).mapM (parseFunction d.name) =
              .ok callables ∧
            probeAll s d (.functions d.name :: .tables d.name :: before) callables = .ok functions ∧
              r = ⟨d, folder, rows, listings, functions⟩ := by
  simp only [surveyDatabase, bind_eq_ok_iff]
  constructor
  · rintro ⟨rows, ht, folder, hf, listings, hl, callables, hc, functions, hp, h⟩
    cases h
    exact ⟨rows, folder, listings, callables, functions, ht, hf, hl, hc, hp, rfl⟩
  · rintro ⟨rows, folder, listings, callables, functions, ht, hf, hl, hc, hp, rfl⟩
    exact ⟨rows, ht, folder, hf, listings, hl, callables, hc, functions, hp, rfl⟩

theorem survey_cons_ok_iff {ds : List Database} {rs : List Report} :
    survey s c before (d :: ds) = .ok rs ↔ ∃ r rest, surveyDatabase s c before d = .ok r ∧
      survey s c (r.calls.reverse ++ before) ds = .ok rest ∧ rs = r :: rest := by
  simp only [survey, bind_eq_ok_iff]
  constructor
  · rintro ⟨r, hr, rest, hs, h⟩
    cases h
    exact ⟨r, rest, hr, hs, rfl⟩
  · rintro ⟨r, rest, hr, hs, rfl⟩
    exact ⟨r, hr, rest, hs, rfl⟩

theorem parseFunction_eq_ok_iff {database : String} {l : FunctionListing} {f : Callable} :
    parseFunction database l = .ok f ↔ ∃ ps, Signature.parse? l.parameters = some ps ∧ f = ⟨l.name, ps⟩ := by
  rw [parseFunction, Signature.parse]
  cases Signature.parse? l.parameters with
  | none => simp [Except.map]
  | some ps => simp [Except.map, eq_comm]

theorem map_artifact_of_parse {database : String} {ls : List FunctionListing} {fs : List Callable}
    (h : ls.mapM (parseFunction database) = .ok fs) :
    fs.map (fun f => Artifact.ofFunction s.types c.nullable f.name f.parameters) =
      ls.map (Report.functionArtifact s c) := by
  induction ls generalizing fs with
  | nil =>
    cases h
    rfl
  | cons l ls ih =>
    rw [List.mapM_cons] at h
    obtain ⟨f, hf, h⟩ := bind_eq_ok_iff.1 h
    obtain ⟨rest, hr, h⟩ := bind_eq_ok_iff.1 h
    obtain ⟨ps, hps, rfl⟩ := parseFunction_eq_ok_iff.1 hf
    cases h
    rw [List.map_cons, List.map_cons, ih hr, Report.functionArtifact, hps, Option.getD_some]

theorem map_callable_of_probeAll {fs : List Callable} {ps : List Probed}
    (h : probeAll s d before fs = .ok ps) : ps.map (·.callable) = fs := by
  induction fs generalizing before ps with
  | nil =>
    cases h
    rfl
  | cons f fs ih =>
    obtain ⟨arguments, columns, rest, _, _, hr, rfl⟩ := probeAll_cons_ok_iff.1 h
    rw [List.map_cons, ih hr]

/-- What a database's models are is told by the kept rows and the kept functions alone. -/
theorem map_artifact_entities {r : Report} (h : surveyDatabase s c before d = .ok r) :
    (r.entities s c).map (·.artifact) = r.artifacts s c := by
  obtain ⟨rows, folder, listings, fs, ps, _, _, _, hfs, hps, rfl⟩ := surveyDatabase_ok_iff.1 h
  have hf := map_artifact_of_parse (s := s) (c := c) hfs
  rw [← map_callable_of_probeAll hps, List.map_map] at hf
  rw [Report.entities, Report.artifacts, List.map_append, List.map_map, List.map_map, ← Table.map_name_ofRows,
    List.map_map]
  exact congrArg _ hf

theorem folder_of_mem_entities {r : Report} {e : Entity} (he : e ∈ r.entities s c) : e.folder = r.folder := by
  rcases List.mem_append.1 he with he | he
  · obtain ⟨t, _, rfl⟩ := List.mem_map.1 he
    rfl
  · obtain ⟨f, _, rfl⟩ := List.mem_map.1 he
    rfl

theorem map_database_of_survey {ds : List Database} {rs : List Report} (h : survey s c before ds = .ok rs) :
    rs.map (·.database) = ds := by
  induction ds generalizing before rs with
  | nil =>
    cases h
    rfl
  | cons d ds ih =>
    obtain ⟨r, rest, hr, hs, rfl⟩ := survey_cons_ok_iff.1 h
    obtain ⟨_, _, _, _, _, _, _, _, _, _, rfl⟩ := surveyDatabase_ok_iff.1 hr
    rw [List.map_cons, ih hs]

/-- Every report of a survey comes from its database. -/
theorem forall_mem_survey {ds : List Database} {rs : List Report} {P : Report → Prop}
    (hP : ∀ before d r, surveyDatabase s c before d = .ok r → P r)
    (h : survey s c before ds = .ok rs) : ∀ r ∈ rs, P r := by
  induction ds generalizing before rs with
  | nil =>
    cases h
    nofun
  | cons d ds ih =>
    obtain ⟨r, rest, hr, hs, rfl⟩ := survey_cons_ok_iff.1 h
    exact List.forall_mem_cons.2 ⟨hP _ _ _ hr, ih hs⟩

theorem exists_folderOf (hm : c.modelsFolder.isSome) (d : Database) : ∃ folder, c.folderOf d = .ok folder := by
  obtain ⟨folder, hf⟩ := Option.isSome_iff_exists.1 hm
  rw [Config.folderOf, hf]
  cases given d.subfolder <;> exact ⟨_, rfl⟩

theorem folderOf_of_survey {ds : List Database} {rs : List Report} (h : survey s c before ds = .ok rs) :
    ∀ r ∈ rs, c.folderOf r.database = .ok r.folder := by
  refine forall_mem_survey (fun before d r hr => ?_) h
  obtain ⟨_, folder, _, _, _, _, hf, _, _, _, rfl⟩ := surveyDatabase_ok_iff.1 hr
  exact hf

/-- Every call is answered, all functions that the rules keep have a signature, and the calendar has not
come to its end. -/
structure Answering (s : Setting) (c : Config) : Prop where
  clock : s.now.utc?.isSome
  tables : ∀ before name, ∃ rows, s.catalog.tables before name = .ok rows
  functions : ∀ before name, ∃ listings, s.catalog.functions before name = .ok listings
  probe : ∀ before f arguments name, ∃ columns, s.catalog.probe before f arguments name = .ok columns
  signatures : ∀ before (d : Database) listings, s.catalog.functions before d.name = .ok listings →
    ∀ l ∈ filterBy (c.rulesForFunctions d) FunctionListing.name listings,
      (Signature.parse? l.parameters).isSome

namespace Answering

theorem exists_literal (hn : s.now.utc?.isSome) (k : Scalar) : ∃ literal, k.literal s.now = .ok literal := by
  cases k with
  | datetime =>
    obtain ⟨l, hl⟩ := Option.isSome_iff_exists.1 hn
    exact ⟨instantLiteral l, by rw [Scalar.literal, Calendar.Moment.zoned_utc?, hl]⟩
  | _ => exact ⟨_, rfl⟩

theorem exists_probeAll (h : Answering s c) (d : Database) (before : List Call) (fs : List Callable) :
    ∃ ps, probeAll s d before fs = .ok ps := by
  induction fs generalizing before with
  | nil => exact ⟨[], rfl⟩
  | cons f fs ih =>
    have hl : ∀ p ∈ f.parameters, ∃ literal, argumentLiteral s.now p.type = .ok literal :=
      fun p _ => exists_literal h.clock (Scalar.ofName p.type)
    obtain ⟨arguments, ha⟩ := exists_mapM hl
    obtain ⟨columns, hc⟩ := h.probe before f.name arguments d.name
    obtain ⟨rest, hr⟩ := ih (.probe f.name arguments d.name :: before)
    exact ⟨_, probeAll_cons_ok_iff.2 ⟨arguments, columns, rest, ha, hc, hr, rfl⟩⟩

theorem exists_surveyDatabase (h : Answering s c) (hm : c.modelsFolder.isSome) (before : List Call)
    (d : Database) : ∃ r, surveyDatabase s c before d = .ok r := by
  obtain ⟨rows, ht⟩ := h.tables before d.name
  obtain ⟨folder, hf⟩ := exists_folderOf hm d
  obtain ⟨listings, hl⟩ := h.functions (.tables d.name :: before) d.name
  have hparse : ∀ l ∈ filterBy (c.rulesForFunctions d) FunctionListing.name listings,
      ∃ f, parseFunction d.name l = .ok f := by
    intro l hl'
    obtain ⟨ps, hps⟩ := Option.isSome_iff_exists.1 (h.signatures _ d listings hl l hl')
    exact ⟨⟨l.name, ps⟩, parseFunction_eq_ok_iff.2 ⟨ps, hps, rfl⟩⟩
  obtain ⟨fs, hfs⟩ := exists_mapM hparse
  obtain ⟨ps, hps⟩ := h.exists_probeAll d (.functions d.name :: .tables d.name :: before) fs
  exact ⟨_, surveyDatabase_ok_iff.2 ⟨rows, folder, listings, fs, ps, ht, hf, hl, hfs, hps, rfl⟩⟩

theorem exists_survey (h : Answering s c) (hm : c.modelsFolder.isSome) (before : List Call)
    (ds : List Database) : ∃ rs, survey s c before ds = .ok rs := by
  induction ds generalizing before with
  | nil => exact ⟨[], rfl⟩
  | cons d ds ih =>
    obtain ⟨r, hr⟩ := h.exists_surveyDatabase hm before d
    obtain ⟨rest, hs⟩ := ih (r.calls.reverse ++ before)
    exact ⟨r :: rest, survey_cons_ok_iff.2 ⟨r, rest, hr, hs, rfl⟩⟩

end Answering
end EntityGen.Generation
