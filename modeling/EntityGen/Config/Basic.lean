import EntityGen.Filter.Rule
import EntityGen.Path

/-! The configuration of a run. -/

namespace EntityGen

/-- Rules by the entities they apply to. -/
structure Filters where
  all : List Rule := []
  tables : List Rule := []
  functions : List Rule := []
  deriving DecidableEq

structure Database where
  name : String
  subfolder : Option String := none
  filters : Filters := {}
  deriving DecidableEq

structure Config where
  modelsFolder : Option Path := none
  contextFile : Option Path := none
  contextFolder : Option Path := none
  «namespace» : Option String := none
  modelsNamespace : Option String := none
  contextNamespace : Option String := none
  contextName : Option String := none
  baseContext : String := "ORMKustoDbContext"
  executorType : String := "IKustoDbContextExecutor"
  contextUsings : List String :=
    ["CSharp.OpenSource.LinqToKql.ORMGen", "CSharp.OpenSource.LinqToKql.Provider",
      "CSharp.OpenSource.LinqToKql.Extensions"]
  modelUsings : List String := ["System"]
  filters : Filters := {}
  nullable : Bool := false
  fileScoped : Bool := true
  clean : Bool := false
  createContext : Bool := true
  databases : List Database := []
  deriving DecidableEq

namespace Config

/-- The rules for the tables of a database. -/
def rulesForTables (c : Config) (d : Database) : List Rule :=
  c.filters.tables ++ c.filters.all ++ d.filters.all ++ d.filters.tables

/-- The rules for the functions of a database. -/
def rulesForFunctions (c : Config) (d : Database) : List Rule :=
  c.filters.functions ++ c.filters.all ++ d.filters.all ++ d.filters.functions

/-- Where the models of a database go. -/
def folderOf (c : Config) (d : Database) : Except Failure Path :=
  match c.modelsFolder with
  | none => .error (.ofField "models_folder" .required)
  | some folder =>
    match given d.subfolder with
    | some s => .ok (folder.join (.ofText s))
    | none => .ok folder

/-- Switches of a command line that turn settings on or off. -/
structure Overrides where
  clean : Bool := false
  noContext : Bool := false
  nullable : Bool := false
  deriving DecidableEq

def override (c : Config) (o : Overrides) : Config :=
  { c with
    clean := c.clean || o.clean
    createContext := c.createContext && !o.noContext
    nullable := c.nullable || o.nullable }

end Config
end EntityGen
