import EntityGen.Config.Basic

/-! Reading a configuration from a mapping. -/

namespace EntityGen

/-- A list of rules; nothing at all is no rules. -/
def readRules (field : String) : Value → Except Failure (List Rule)
  | .null => .ok []
  | v =>
    match v.items? with
    | some items => items.mapM Rule.ofValue
    | none => .error (.ofField field .notRules)

/-- A text that is not empty; a relative path starts at `base`. -/
def readPath (field : String) (base : Option Path) : Value → Except Failure (Option Path)
  | .null => .ok none
  | v =>
    match v.text? with
    | none | some "" => .error (.ofField field .notPath)
    | some s => .ok (some ((base.map (·.join (.ofText s))).getD (.ofText s)))

/-- An empty text counts as missing. -/
def readText (field : String) : Value → Except Failure (Option String)
  | .null => .ok none
  | v =>
    match v.text? with
    | some s => .ok (given (some s))
    | none => .error (.ofField field .notText)

def readFlag (field : String) (usual : Bool) : Option Value → Except Failure Bool
  | none => .ok usual
  | some (.bool b) => .ok b
  | some _ => .error (.ofField field .notFlag)

/-- A list of texts alone; nothing at all is the usual one. -/
def readTexts (field : String) (usual : List String) : Value → Except Failure (List String)
  | .null => .ok usual
  | v =>
    match v.items?.bind (·.mapM Value.text?) with
    | some ss => .ok ss
    | none => .error (.ofField field .notTexts)

/-- `scope` is what the fields of the set are called after. -/
def Filters.ofValue (scope : String) : Value → Except Failure Filters
  | .null => .ok {}
  | v =>
    match v.entries? with
    | some entries => do
      let all ← readRules (scope ++ ".global") (Value.lookup entries "global")
      let tables ← readRules (scope ++ ".tables") (Value.lookup entries "tables")
      let functions ← readRules (scope ++ ".functions") (Value.lookup entries "functions")
      return { all, tables, functions }
    | none => .error (.ofField scope .notMapping)

/-- `scope` is what the fields of the database are called after. -/
def Database.ofEntries (scope : String) (entries : List (Value × Value)) : Except Failure Database :=
  match (Value.lookup entries "name").text? with
  | none | some "" => .error (.ofField scope .databaseName)
  | some name => do
    let subfolder ← readText (scope ++ ".model_subfolder") (Value.lookup entries "model_subfolder")
    let filters ← Filters.ofValue (scope ++ ".filters") (Value.lookup entries "filters")
    return { name, subfolder, filters }

/-- A database is a name, or a mapping with a name. -/
def Database.ofValue (index : Int) (v : Value) : Except Failure Database :=
  let scope := "databases[" ++ toString index ++ "]"
  match v.text?, v.entries? with
  | some name, _ => if name.isEmpty then .error (.ofField scope .databaseName) else .ok { name }
  | none, some entries => Database.ofEntries scope entries
  | none, none => .error (.ofField scope .notDatabase)

/-- The databases of a list, from the index on. -/
def Database.listOfValues (index : Int) : List Value → Except Failure (List Database)
  | [] => .ok []
  | v :: rest => return (← Database.ofValue index v) :: (← Database.listOfValues (index + 1) rest)

def readList (field : String) : Option Value → Except Failure (List Value)
  | none => .ok []
  | some v =>
    match v.items? with
    | some items => .ok items
    | none => .error (.ofField field .notList)

/-- Relative paths start at `base`, if it is given. -/
def Config.ofEntries (entries : List (Value × Value)) (base : Option Path) : Except Failure Config := do
  let value := Value.lookup entries
  let value? := Value.lookup? entries
  let usual : Config := {}
  let databases ← readList "databases" (value? "databases")
  let modelsFolder ← readPath "models_folder" base (value "models_folder")
  let contextFile ← readPath "context_file" base (value "context_file")
  let contextFolder ← readPath "context_folder" base (value "context_folder")
  let ns ← readText "namespace" (value "namespace")
  let modelsNamespace ← readText "models_namespace" (value "models_namespace")
  let contextNamespace ← readText "context_namespace" (value "context_namespace")
  let contextName ← readText "context_name" (value "context_name")
  let baseContext ← readText "base_context" (value "base_context")
  let executorType ← readText "executor_type" (value "executor_type")
  let contextUsings ← readTexts "context_usings" usual.contextUsings (value "context_usings")
  let modelUsings ← readTexts "model_usings" usual.modelUsings (value "model_usings")
  let filters ← Filters.ofValue "filters" (value "filters")
  let nullable ← readFlag "enable_nullable" usual.nullable (value? "enable_nullable")
  let fileScoped ← readFlag "file_scoped_namespaces" usual.fileScoped (value? "file_scoped_namespaces")
  let clean ← readFlag "clean_before_generate" usual.clean (value? "clean_before_generate")
  let createContext ← readFlag "create_context" usual.createContext (value? "create_context")
  let databases ← Database.listOfValues 0 databases
  return {
    modelsFolder, contextFile, contextFolder
    «namespace» := ns
    modelsNamespace, contextNamespace, contextName
    baseContext := baseContext.getD usual.baseContext
    executorType := executorType.getD usual.executorType
    contextUsings, modelUsings, filters, nullable, fileScoped, clean, createContext, databases }

end EntityGen
