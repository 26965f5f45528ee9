import EntityGen.Config.Basic

/-! Filling in what a configuration leaves open. -/

namespace EntityGen.Config

def usualContextName : String := "MyORMKustoDbContext"

/-- The first of two texts that is given. -/
def firstGiven (a b : Option String) : Option String := (given a).or (given b)

/-- The context goes to its own file, or to a file with its name in its folder. -/
def contextFileOf (c : Config) (contextName : String) : Option Path :=
  match c.contextFile, c.contextFolder with
  | some file, _ => some file
  | none, some folder => some (folder.join (.ofText (contextName ++ ".cs")))
  | none, none => none

/-- A context needs a namespace and a file. -/
def checkContext (contextNamespace : Option String) (contextFile : Option Path) : Except Failure Unit :=
  match contextNamespace, contextFile with
  | none, _ => .error (.ofField "context_namespace" .requiredWithoutNamespace)
  | some _, none => .error (.ofField "context_file" .requiredWithoutFolder)
  | some _, some _ => .ok ()

/-- The configuration with everything filled in that follows from the rest. -/
def complete (c : Config) : Except Failure Config := do
  if c.modelsFolder.isNone then throw (.ofField "models_folder" .required)
  let some modelsNamespace := firstGiven c.modelsNamespace c.namespace
    | throw (.ofField "models_namespace" .requiredWithoutNamespace)
  let contextName := (given c.contextName).getD usualContextName
  let contextFile := c.contextFileOf contextName
  let contextNamespace := c.contextNamespace.filter (· ≠ "") |>.or c.namespace
  if c.createContext then checkContext (given contextNamespace) contextFile
  return { c with
    modelsNamespace := some modelsNamespace
    contextNamespace
    contextName := some contextName
    contextFile
    contextFolder := (contextFile.map Path.parent).or c.contextFolder }

end EntityGen.Config
