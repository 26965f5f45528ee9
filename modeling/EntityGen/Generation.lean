import EntityGen.Cleaning
import EntityGen.Config.Completion
import EntityGen.Emission.Context
import EntityGen.Emission.Model

/-! Generating the models of all databases and the context that shows them. -/

namespace EntityGen

/-- What a run produced. -/
structure Summary where
  artifacts : List Artifact := []
  modelPaths : List Path := []
  contextPath : Option Path := none
  bytesCleaned : Nat := 0
  deriving DecidableEq

/-- A model that was written. -/
structure Written where
  artifact : Artifact
  path : Path
  deriving DecidableEq

/-- What a run is given besides its configuration. -/
structure Setting where
  catalog : Catalog
  types : TypeMap
  now : Calendar.Moment

/-- A function with its parameters. -/
structure Callable where
  name : String
  parameters : List Parameter
  deriving DecidableEq

namespace Generation

def makeFolder (folder : Path) : Run Unit :=
  Run.act (fun r => .filesystem (.createDirectory r) folder.text) (Action.ensureDirectories folder)

/-- Makes the folders, and then removes what is in them if the configuration says so. -/
def prepare (c : Config) (modelsFolder : Path) : Run Nat := do
  makeFolder modelsFolder
  match c.contextFolder with
  | some folder => makeFolder folder
  | none => pure ()
  if c.clean then Cleaning.cleanOutput false modelsFolder c.contextFile else return 0

/-- Writes a text and makes the folders above it. -/
def writeText (p : Path) (text : String) : Run Unit := do
  Run.act (fun r => .filesystem (.writeFile r) p.text) do
    Action.ensureDirectories p.parent
    Action.writeFile p text.toUTF8
  Run.note (.wrote p text)

def modelPath (folder : Path) (name : String) : Path := folder.join (.ofText (Model.fileName name))

/-- The frame of the files of the models. -/
def modelFrame (c : Config) : FileFrame where
  «namespace» := c.modelsNamespace.getD ""
  usings := c.modelUsings
  nullable := c.nullable
  fileScoped := c.fileScoped

def modelText (s : Setting) (c : Config) (name : String) (columns : List Column) : String :=
  Model.text s.types (modelFrame c) name columns

def addModel (s : Setting) (c : Config) (folder : Path) (name : String) (columns : List Column) :
    Run Path := do
  let p := modelPath folder name
  writeText p (modelText s c name columns)
  return p

/-- The tables of a database that the rules keep. -/
def tablesOf (s : Setting) (c : Config) (d : Database) : Run (List Table) := do
  let rows ← Run.call (.tables d.name) (s.catalog.tables · d.name)
  return Table.ofRows (filterBy (c.rulesForTables d) TableRow.table rows)

def parseFunction (database : String) (r : FunctionListing) : Except Failure Callable :=
  (Signature.parse r.name r.parameters (some database)).map (⟨r.name, ·⟩)

/-- The functions of a database that the rules keep. All of them must have a signature. -/
def functionsOf (s : Setting) (c : Config) (d : Database) : Run (List Callable) := do
  let rows ← Run.call (.functions d.name) (s.catalog.functions · d.name)
  match (filterBy (c.rulesForFunctions d) FunctionListing.name rows).mapM (parseFunction d.name) with
  | .ok fs => return fs
  | .error f => throw f

/-- The columns of the result of a function, which is called with default values. -/
def probe (s : Setting) (d : Database) (f : Callable) : Run (List Column) := do
  match f.parameters.mapM fun p => argumentLiteral s.now p.type with
  | .error e => throw e
  | .ok arguments =>
    Run.call (.probe f.name arguments d.name) (s.catalog.probe · f.name arguments d.name)

def generateTable (s : Setting) (c : Config) (folder : Path) (t : Table) : Run Written := do
  Run.note (.started t.name)
  let path ← addModel s c folder t.name t.columns
  Run.note (.finished t.name)
  return ⟨.ofTable t.name, path⟩

def generateFunction (s : Setting) (c : Config) (d : Database) (folder : Path) (f : Callable) :
    Run Written := do
  Run.note (.started f.name)
  let columns ← probe s d f
  let path ← addModel s c folder f.name columns
  Run.note (.finished f.name)
  return ⟨.ofFunction s.types c.nullable f.name f.parameters, path⟩

/-- The folder of a database's models. -/
def folderFor (c : Config) (d : Database) : Run Path := do
  match c.folderOf d with
  | .ok folder => return folder
  | .error f => throw f

/-- First the tables of a database, then its functions. -/
def generateDatabase (s : Setting) (c : Config) (d : Database) : Run (List Written) := do
  Run.note (.database d.name)
  Run.note (.section "Tables")
  let tables ← tablesOf s c d
  let folder ← folderFor c d
  let first ← tables.mapM (generateTable s c folder)
  Run.note (.section "Functions")
  let functions ← functionsOf s c d
  let second ← functions.mapM (generateFunction s c d folder)
  return first ++ second

def contextClass (c : Config) : ContextClass where
  name := c.contextName.getD Config.usualContextName
  base := c.baseContext
  executor := c.executorType

/-- The frame of the file of the context, which uses the namespaces of the configuration first. -/
def contextFrame (c : Config) : FileFrame where
  «namespace» := c.contextNamespace.getD ""
  usings := c.namespace.getD "" :: c.modelsNamespace.getD "" :: c.contextUsings
  nullable := c.nullable
  fileScoped := c.fileScoped

def contextText (c : Config) (artifacts : List Artifact) : String :=
  (contextClass c).text (contextFrame c) artifacts

/-- Writes the context if there is to be one. -/
def addContext (c : Config) (artifacts : List Artifact) : Run (Option Path) := do
  if c.createContext then
    match c.contextFile with
    | some file =>
      Run.note (.context file)
      writeText file (contextText c artifacts)
      return some file
    | none => throw (.ofField "context_file" .requiredWithoutFolder)
  else return none

/-- The completed configuration, and the folder for the models that it then has. -/
def completed (c : Config) : Run (Config × Path) := do
  match c.complete with
  | .error f => throw f
  | .ok c =>
    match c.modelsFolder with
    | some folder => return (c, folder)
    | none => throw (.ofField "models_folder" .required)

/-- Everything after the configuration is completed. -/
def runCompleted (s : Setting) (c : Config) (modelsFolder : Path) : Run Summary := do
  let bytes ← prepare c modelsFolder
  Run.note (.prepared bytes)
  let written := (← c.databases.mapM (generateDatabase s c)).flatten
  let artifacts := written.map (·.artifact)
  let contextPath ← addContext c artifacts
  return { artifacts, modelPaths := written.map (·.path), contextPath, bytesCleaned := bytes }

/-- Completes a configuration and generates what it asks for. -/
def run (s : Setting) (c : Config) : Run Summary := do
  let (c, modelsFolder) ← completed c
  runCompleted s c modelsFolder

end Generation
end EntityGen
