import EntityGen.Schema.Signature
import EntityGen.Schema.TypeMap

/-! What the context shows of a generated entity. -/

namespace EntityGen

structure Artifact where
  typeName : String
  query : String
  declaration : String
  deriving DecidableEq, Inhabited

namespace Artifact

def ofTable (name : String) : Artifact := ⟨name, name, name⟩

/-- A parameter as it is declared. -/
def declared (m : TypeMap) (nullable : Bool) (p : Parameter) : String :=
  m.parameterType p.type nullable ++ " " ++ p.name

/-- A parameter as it is spliced into the query. -/
def spliced (p : Parameter) : String := "\x7b" ++ p.name ++ ".GetKQLValue()\x7d"

/-- A name called with arguments. -/
def call (function : String) (arguments : List String) : String :=
  function ++ "(" ++ ", ".intercalate arguments ++ ")"

def ofFunction (m : TypeMap) (nullable : Bool) (name : String) (ps : List Parameter) : Artifact where
  typeName := name
  query := call name (ps.map spliced)
  declaration := call name (ps.map (declared m nullable))

end Artifact

/-- The query for the result columns of a function; it reads one row at most. -/
def probeQuery (function : String) (arguments : List String) : String :=
  Artifact.call function arguments ++ " | take 1 | getschema"

end EntityGen
