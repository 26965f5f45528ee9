import EntityGen.Proofs.Config.Completion
import EntityGen.Proofs.Course
import EntityGen.Proofs.Generation.Preparation
import EntityGen.Proofs.Generation.Success

/-! The one order in which a run prepares, tells, asks and writes. -/

namespace EntityGen.Generation

open Run

/-- An operation of a run, with the answer that it gets if it succeeds. -/
inductive Step
  | prepare (bytes : Nat)
  | tell (e : Event)
  | tables (d : Database) (rows : List TableRow)
  | functions (d : Database) (listings : List FunctionListing)
  | parse (d : Database) (listings : List FunctionListing) (callables : List Callable)
  /-- The default literals for the parameters of a function. -/
  | literals (f : Callable) (arguments : List String)
  | probe (d : Database) (f : Probed)
  | model (e : Entity)
  | context (file : Path) (artifacts : List Artifact)
  deriving DecidableEq

namespace Step

/-- Performs an operation and puts the answer that comes in the place of the one that stands there. -/
def perform (s : Setting) (c : Config) (folder : Path) : Step → Run Step
  | prepare _ => prepare <$> Generation.prepare c folder
  | tell e => (fun _ => tell e) <$> note e
  | tables d _ => tables d <$> call (.tables d.name) (s.catalog.tables · d.name)
  | functions d _ => functions d <$> call (.functions d.name) (s.catalog.functions · d.name)
  | parse d ls _ => parse d ls <$> MonadExcept.ofExcept (ls.mapM (parseFunction d.name))
  | literals f _ =>
    literals f <$> MonadExcept.ofExcept (f.parameters.mapM fun p => argumentLiteral s.now p.type)
  | probe d f =>
    (fun columns => probe d { f with columns }) <$>
      call (Report.probeCall d f) (s.catalog.probe · f.callable.name f.arguments d.name)
  | model e => (fun _ => model e) <$> writeText e.path (e.output s c).text
  | context file as => (fun _ => context file as) <$> writeText file (contextText c as)

def events (s : Setting) (c : Config) : Step → List Event
  | tell e => [e]
  | tables d _ => [.called (.tables d.name)]
  | functions d _ => [.called (.functions d.name)]
  | probe d f => [.called (Report.probeCall d f)]
  | model e => [.wrote e.path (e.output s c).text]
  | context file as => [.wrote file (contextText c as)]
  | prepare _ | parse _ _ _ | literals _ _ => []

end Step

section Order

variable (s : Setting) (c : Config)

def tableSteps (folder : Path) (t : Table) : List Step :=
  let e := Entity.ofTable folder t
  [.tell (.started e.name), .model e, .tell (.finished e.name)]

def functionSteps (d : Database) (folder : Path) (f : Probed) : List Step :=
  let e := Entity.ofFunction s c folder f
  [.tell (.started e.name), .literals f.callable f.arguments, .probe d f, .model e,
    .tell (.finished e.name)]

def databaseSteps (r : Report) : List Step :=
  [.tell (.database r.database.name), .tell (.section "Tables"), .tables r.database r.rows] ++
    (Table.ofRows (r.keptRows c)).flatMap (tableSteps r.folder) ++
      -- All signatures are read before the first function is called.
      [.tell (.section "Functions"), .functions r.database r.listings,
        .parse r.database (r.keptListings c) (r.functions.map (·.callable))] ++
        r.functions.flatMap (functionSteps s c r.database r.folder)

def contextSteps (artifacts : List Artifact) : List Step :=
  (contextOutput c artifacts).flatMap fun o => [.tell (.context o.path), .context o.path artifacts]

/-- The operations of a run to which the catalog tells these reports. -/
def order (bytes : Nat) (rs : List Report) : List Step :=
  [.prepare bytes, .tell (.prepared bytes)] ++ rs.flatMap (databaseSteps s c) ++
    contextSteps c (artifacts s c rs)

end Order

/-- A report is about a database and names the folder of its models. -/
structure Report.IsAbout (c : Config) (d : Database) (r : Report) : Prop where
  database : r.database = d
  folder : c.folderOf d = .ok r.folder

variable {s : Setting} {c : Config} {d : Database} {folder modelsFolder : Path} {j : Journal}

theorem functionsOf_eq (s : Setting) (c : Config) (d : Database) : functionsOf s c d = (do
    let listings ← call (.functions d.name) (s.catalog.functions · d.name)
    MonadExcept.ofExcept
      ((filterBy (c.rulesForFunctions d) FunctionListing.name listings).mapM (parseFunction d.name))) := by
  rw [functionsOf]
  congr 1
  funext listings
  cases (filterBy (c.rulesForFunctions d) FunctionListing.name listings).mapM (parseFunction d.name) <;> rfl

theorem probe_eq (s : Setting) (d : Database) (f : Callable) : probe s d f = (do
    let arguments ← MonadExcept.ofExcept (f.parameters.mapM fun p => argumentLiteral s.now p.type)
    call (.probe f.name arguments d.name) (s.catalog.probe · f.name arguments d.name)) := by
  rw [probe]
  cases f.parameters.mapM fun p => argumentLiteral s.now p.type <;> rfl

/-! Each part of a run performs its steps. -/

/-- A part of a run performs steps in the order that `P` allows for its result. -/
abbrev Orderly {α : Type} (s : Setting) (c : Config) (modelsFolder : Path) (P : List Step → α → Prop)
    (x : Run α) : Prop :=
  Follows (Step.perform s c modelsFolder) P x

theorem orderly_note (e : Event) :
    Orderly s c modelsFolder (fun ts _ => ts = [.tell e]) (note e) :=
  .one (fun _ => Step.tell e) fun _ => rfl

theorem orderly_addModel (e : Entity) :
    Orderly s c modelsFolder (fun ts p => ts = [.model e] ∧ p = e.path)
      (addModel s c e.folder e.name e.columns) := by
  have hw : Orderly s c modelsFolder (fun ts _ => ts = [.model e]) (writeText e.path (e.output s c).text) :=
    .one (fun _ => Step.model e) fun _ => rfl
  refine hw.bind ?_
  rintro _ _ rfl
  exact .pure ⟨rfl, rfl⟩

theorem orderly_generateTable (folder : Path) (t : Table) :
    Orderly s c modelsFolder
      (fun ts w => ts = tableSteps folder t ∧ w = (Entity.ofTable folder t).written)
      (generateTable s c folder t) := by
  refine (orderly_note (.started t.name)).bind ?_
  rintro _ _ rfl
  refine (orderly_addModel (.ofTable folder t)).bind ?_
  rintro _ _ ⟨rfl, rfl⟩
  refine (orderly_note (.finished t.name)).bind ?_
  rintro _ _ rfl
  exact .pure ⟨rfl, rfl⟩

theorem orderly_probe (d : Database) (f : Callable) :
    Orderly s c modelsFolder
      (fun ts columns => ∃ arguments, ts = [.literals f arguments, .probe d ⟨f, arguments, columns⟩])
      (probe s d f) := by
  rw [probe_eq]
  refine (Follows.one (Step.literals f) fun _ => rfl).bind ?_
  rintro _ arguments rfl
  refine (Follows.one (fun columns => Step.probe d ⟨f, arguments, columns⟩) fun _ => rfl).mono ?_
  rintro _ columns rfl
  exact ⟨arguments, rfl⟩

theorem orderly_generateFunction (d : Database) (folder : Path) (f : Callable) :
    Orderly s c modelsFolder
      (fun ts w => ∃ p : Probed, f = p.callable ∧ ts = functionSteps s c d folder p ∧
        w = (Entity.ofFunction s c folder p).written)
      (generateFunction s c d folder f) := by
  refine (orderly_note (.started f.name)).bind ?_
  rintro _ _ rfl
  refine (orderly_probe d f).bind ?_
  rintro _ columns ⟨arguments, rfl⟩
  refine (orderly_addModel (.ofFunction s c folder ⟨f, arguments, columns⟩)).bind ?_
  rintro _ _ ⟨rfl, rfl⟩
  refine (orderly_note (.finished f.name)).bind ?_
  rintro _ _ rfl
  exact .pure ⟨⟨f, arguments, columns⟩, rfl, rfl, rfl⟩

theorem orderly_tablesOf (d : Database) :
    Orderly s c modelsFolder
      (fun ts tables => ∃ rows, ts = [.tables d rows] ∧
        tables = Table.ofRows (filterBy (c.rulesForTables d) TableRow.table rows))
      (tablesOf s c d) := by
  refine (Follows.one (Step.tables d) fun _ => rfl).bind ?_
  rintro _ rows rfl
  exact .pure ⟨rows, rfl, rfl⟩

theorem orderly_functionsOf (d : Database) :
    Orderly s c modelsFolder
      (fun ts callables => ∃ listings, ts = [.functions d listings,
        .parse d (filterBy (c.rulesForFunctions d) FunctionListing.name listings) callables])
      (functionsOf s c d) := by
  rw [functionsOf_eq]
  refine (Follows.one (Step.functions d) fun _ => rfl).bind ?_
  rintro _ listings rfl
  refine (Follows.one (Step.parse d _) fun _ => rfl).mono ?_
  rintro _ callables rfl
  exact ⟨listings, rfl⟩

theorem orderly_generateTables (folder : Path) (tables : List Table) :
    Orderly s c modelsFolder
      (fun ts ws => ts = tables.flatMap (tableSteps folder) ∧
        ws = tables.map fun t => (Entity.ofTable folder t).written)
      (tables.mapM (generateTable s c folder)) := by
  refine (Follows.mapM (R := Eq) (tableSteps folder) (fun t => (Entity.ofTable folder t).written)
    fun t _ => ?_).mono ?_
  · exact (orderly_generateTable folder t).mono fun ts w h => ⟨t, rfl, h⟩
  · rintro _ _ ⟨ts, hts, rfl, rfl⟩
    rw [List.forall₂_eq_eq_eq] at hts
    exact hts ▸ ⟨rfl, rfl⟩

theorem orderly_generateFunctions (d : Database) (folder : Path) (callables : List Callable) :
    Orderly s c modelsFolder
      (fun ts ws => ∃ functions : List Probed, callables = functions.map (·.callable) ∧
        ts = functions.flatMap (functionSteps s c d folder) ∧
          ws = functions.map fun p => (Entity.ofFunction s c folder p).written)
      (callables.mapM (generateFunction s c d folder)) := by
  refine (Follows.mapM (R := fun f (p : Probed) => f = p.callable) _ _ fun f _ =>
    orderly_generateFunction d folder f).mono ?_
  rintro _ _ ⟨functions, h, rfl, rfl⟩
  rw [← List.forall₂_map_right_iff (R := Eq), List.forall₂_eq_eq_eq] at h
  exact ⟨functions, h, rfl, rfl⟩

theorem orderly_generateDatabase (hm : c.modelsFolder.isSome) (d : Database) :
    Orderly s c modelsFolder
      (fun ts ws => ∃ r : Report, r.IsAbout c d ∧ ts = databaseSteps s c r ∧
        ws = (r.entities s c).map Entity.written)
      (generateDatabase s c d) := by
  obtain ⟨folder, hfolder⟩ := exists_folderOf hm d
  have hf : folderFor c d = pure folder := by rw [folderFor, hfolder]
  rw [generateDatabase, hf]
  simp only [pure_bind]
  refine (orderly_note (.database d.name)).bind ?_
  rintro _ _ rfl
  refine (orderly_note (.section "Tables")).bind ?_
  rintro _ _ rfl
  refine (orderly_tablesOf d).bind ?_
  rintro _ _ ⟨rows, rfl, rfl⟩
  refine (orderly_generateTables folder _).bind ?_
  rintro _ _ ⟨rfl, rfl⟩
  refine (orderly_note (.section "Functions")).bind ?_
  rintro _ _ rfl
  refine (orderly_functionsOf d).bind ?_
  rintro _ _ ⟨listings, rfl⟩
  refine (orderly_generateFunctions d folder _).bind ?_
  rintro _ _ ⟨functions, rfl, rfl, rfl⟩
  refine .pure ⟨⟨d, folder, rows, listings, functions⟩, ⟨rfl, hfolder⟩, ?_, ?_⟩
  · simp only [databaseSteps, Report.keptRows, Report.keptListings, List.append_assoc, List.append_nil,
      List.cons_append, List.nil_append]
  · rw [Report.entities, List.map_append, List.map_map, List.map_map]
    rfl

theorem orderly_addContext (hf : c.createContext = true → c.contextFile.isSome) (as : List Artifact) :
    Orderly s c modelsFolder
      (fun ts written => ts = contextSteps c as ∧ written = ((contextOutput c as).map (·.path)).head?)
      (addContext c as) := by
  rw [addContext]
  cases hc : c.createContext with
  | false =>
    rw [contextSteps, contextOutput_of_no_context hc]
    exact .pure ⟨rfl, rfl⟩
  | true =>
    obtain ⟨file, hfile⟩ := Option.isSome_iff_exists.1 (hf hc)
    have hw : Orderly s c modelsFolder (fun ts _ => ts = [.context file as])
        (writeText file (contextText c as)) := .one (fun _ => Step.context file as) fun _ => rfl
    rw [hfile, contextSteps, contextOutput_of_context hc hfile]
    refine (orderly_note (.context file)).bind ?_
    rintro _ _ rfl
    refine hw.bind ?_
    rintro _ _ rfl
    exact .pure ⟨rfl, rfl⟩

theorem orderly_runCompleted (hm : c.modelsFolder.isSome)
    (hf : c.createContext = true → c.contextFile.isSome) :
    Orderly s c modelsFolder
      (fun ts sm => ∃ bytes rs, List.Forall₂ (Report.IsAbout c) c.databases rs ∧ ts = order s c bytes rs ∧
        sm = summary s c rs bytes)
      (runCompleted s c modelsFolder) := by
  have hp : Orderly s c modelsFolder (fun ts bytes => ts = [.prepare bytes]) (prepare c modelsFolder) :=
    .one Step.prepare fun _ => rfl
  refine hp.bind ?_
  rintro _ bytes rfl
  refine (orderly_note (.prepared bytes)).bind ?_
  rintro _ _ rfl
  refine (Follows.mapM _ _ fun d _ => orderly_generateDatabase hm d).bind ?_
  rintro _ _ ⟨rs, hrs, rfl, rfl⟩
  simp only [map_artifact_written, map_path_written]
  refine (orderly_addContext hf (artifacts s c rs)).bind ?_
  rintro _ _ ⟨rfl, rfl⟩
  refine .pure ⟨bytes, rs, hrs, ?_, rfl⟩
  rw [order, List.append_nil, List.append_assoc]
  rfl

/-! What is noted. -/

theorem outcome_map_writeText {α : Type} (a : α) (p : Path) (text : String) (j : Journal) :
    outcome ((fun _ => a) <$> writeText p text) j =
      match outcome (Output.save ⟨p, text⟩) j.disk with
      | (.ok _, d') => (.ok a, ⟨d', j.events ++ [.wrote p text]⟩)
      | (.error t, d') => (.error (writeFailure p t), ⟨d', j.events⟩) := by
  rw [outcome_map, outcome_writeText]
  rcases outcome (Output.save ⟨p, text⟩) j.disk with ⟨_ | _, d'⟩ <;> rfl

theorem notes_perform : Notes (Step.perform s c modelsFolder) (Step.events s c) := by
  intro t j
  cases t with
  | prepare n =>
    left
    rw [Step.perform, outcome_map, Step.events, List.append_nil]
    exact prepare_silent j rfl
  | tell e => exact .inl rfl
  | tables d rows | functions d listings | probe d f =>
    left
    rw [Step.perform, outcome_map, outcome_call]
    rfl
  | parse d ls callables | literals f arguments =>
    left
    rw [Step.perform, outcome_map, outcome_ofExcept, Step.events, List.append_nil]
  | model e | context file as =>
    rw [Step.perform, outcome_map_writeText, Step.events]
    split
    · exact .inl rfl
    · exact .inr ⟨⟨_, rfl⟩, rfl⟩

theorem outcome_run_of_complete {r : Config} (hr : c.complete = .ok r) (hm : r.modelsFolder = some folder)
    (j : Journal) : outcome (run s c) j = outcome (runCompleted s r folder) j := by
  rw [run, completed, hr]
  dsimp only
  rw [hm]
  rfl

theorem outcome_run_of_incomplete {f : Failure} (hr : c.complete = .error f) (j : Journal) :
    outcome (run s c) j = (.error f, j) := by
  rw [run, completed, hr]
  rfl

/-- A run prepares, goes through the databases in order, and then writes the context. It ends with the first
operation that fails, and with the failure of that one. It notes what its operations note, and it notes all
of it if it succeeds. -/
theorem run_in_order {r : Config} (hr : c.complete = .ok r) (j : Journal) :
    ∃ folder bytes rs, r.modelsFolder = some folder ∧
      List.Forall₂ (Report.IsAbout r) r.databases rs ∧
        Ends (Step.perform s r folder) (summary s r rs bytes) j (order s r bytes rs) (outcome (run s c) j) ∧
          ∃ es, es <+: (order s r bytes rs).flatMap (Step.events s r) ∧
            (outcome (run s c) j).2.events = j.events ++ es ∧
              ((outcome (run s c) j).1.isOk → es = (order s r bytes rs).flatMap (Step.events s r)) := by
  have hc := Config.completes_of_complete hr
  obtain ⟨folder, hm⟩ := Option.isSome_iff_exists.1 hc.modelsFolder_isSome
  have ho : Orderly s r folder _ (runCompleted s r folder) :=
    orderly_runCompleted hc.modelsFolder_isSome hc.contextFile
  obtain ⟨_, _, ⟨bytes, rs, hrs, rfl, rfl⟩, he⟩ := ho j
  rw [outcome_run_of_complete hr hm]
  exact ⟨folder, bytes, rs, hm, hrs, he, he.events notes_perform⟩

def halting : Config where
  modelsFolder := some ⟨0, ["m"]⟩
  contextFile := some ⟨0, ["c.cs"]⟩
  «namespace» := some "N"
  databases := [⟨"A", none, {}⟩, ⟨"B", some "b", {}⟩]

def completedHalting : Config := { halting with
  modelsNamespace := some "N"
  contextNamespace := some "N"
  contextName := some "MyORMKustoDbContext"
  contextFolder := some ⟨0, []⟩ }

/-- The functions of the second database are not told. -/
def haltingSetting : Setting where
  catalog := {
    tables := fun _ _ => .ok [⟨"Book", "id", "System.Int32"⟩]
    functions := fun _ name =>
      if name = "A" then .ok [⟨"Late", "(days:int)"⟩] else .error (.transport .timedOut (some "B") none)
    probe := fun _ _ _ _ => .ok [⟨"reader", "System.Guid"⟩] }
  types := {}
  now := .first

theorem run_in_order_halting : halting.complete = .ok completedHalting ∧
    ∃ folder bytes rs, completedHalting.modelsFolder = some folder ∧
      List.Forall₂ (Report.IsAbout completedHalting) completedHalting.databases rs ∧
        Ends (Step.perform haltingSetting completedHalting folder)
          (summary haltingSetting completedHalting rs bytes) ⟨Disk.fresh ["w"], []⟩
          (order haltingSetting completedHalting bytes rs)
          (outcome (run haltingSetting halting) ⟨Disk.fresh ["w"], []⟩) ∧
          ∃ es, es <+: (order haltingSetting completedHalting bytes rs).flatMap
              (Step.events haltingSetting completedHalting) ∧
            (outcome (run haltingSetting halting) ⟨Disk.fresh ["w"], []⟩).2.events = [] ++ es ∧
              ((outcome (run haltingSetting halting) ⟨Disk.fresh ["w"], []⟩).1.isOk →
                es = (order haltingSetting completedHalting bytes rs).flatMap
                  (Step.events haltingSetting completedHalting)) :=
  ⟨rfl, run_in_order rfl ⟨Disk.fresh ["w"], []⟩⟩

end EntityGen.Generation
