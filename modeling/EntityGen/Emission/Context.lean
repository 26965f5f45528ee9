import EntityGen.Emission.Artifact
import EntityGen.Emission.SourceFile

/-! The class through which all entities are queried. -/

namespace EntityGen

/-- The names that the class of the context is built from. -/
structure ContextClass where
  name : String
  base : String := "ORMKustoDbContext"
  executor : String := "IKustoDbContextExecutor"
  deriving DecidableEq

namespace ContextClass

def constructorLines (c : ContextClass) : List String :=
  ["    public " ++ c.name ++ "(" ++ c.executor ++ " executor) : base(executor)", "    \x7b", "    \x7d"]

/-- The two lines that give access to an entity. -/
def accessor (a : Artifact) : List String :=
  ["    public virtual IQueryable<" ++ a.typeName ++ "> " ++ a.declaration,
    "        => CreateQuery<" ++ a.typeName ++ ">($\"" ++ a.query ++ "\");"]

/-- A blank line stands between two accessors. -/
def accessors (artifacts : List Artifact) : List String :=
  [""].intercalate (artifacts.map accessor)

def declaration (c : ContextClass) (artifacts : List Artifact) : String :=
  FileFrame.linesOf <|
    ["public partial class " ++ c.name ++ " : " ++ c.base, "\x7b"] ++ c.constructorLines ++ [""] ++
      accessors artifacts ++ ["\x7d"]

/-- The text of the file of the context. -/
def text (c : ContextClass) (frame : FileFrame) (artifacts : List Artifact) : String :=
  frame.text (c.declaration artifacts)

end ContextClass
end EntityGen
