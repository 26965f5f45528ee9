import EntityGen.Schema.Scalar

/-! Types of the generated properties and parameters. -/

namespace EntityGen

/-- How remote types are named in the generated text. -/
structure TypeMap where
  /-- What is taken off the front of the type of a column. -/
  namespaceStart : String := "System."
  aliases : List (String × String) := [("String", "string"), ("Object", "object"), ("SByte", "sbyte")]
  /-- The type that is nullable as it stands. -/
  stringType : String := "string"
  nullableMark : String := "?"
  /-- Names of scalar kinds that differ from the usual ones, the first of a kind counting. -/
  scalarNames : List (Scalar × String) := []
  deriving DecidableEq

namespace TypeMap

/-- The usual name of a scalar kind. -/
def usualName : Scalar → String
  | .bool => "bool"
  | .datetime => "DateTime"
  | .decimal => "decimal"
  | .guid => "Guid"
  | .int => "int"
  | .long => "long"
  | .real => "double"
  | .string => "string"
  | .timespan => "TimeSpan"
  | .dynamic | .unknown => "object"

def scalarName (m : TypeMap) (k : Scalar) : String :=
  ((m.scalarNames.find? (·.1 = k)).map (·.2)).getD (usualName k)

def dropStart (start s : String) : String :=
  if start.toList.isPrefixOf s.toList then String.ofList (s.toList.drop start.length) else s

/-- The name of a column's type before it is marked. -/
def plainType (m : TypeMap) (remote : String) : String :=
  let name := dropStart m.namespaceStart remote
  ((m.aliases.find? (·.1 = name)).map (·.2)).getD name

/-- Every type is marked as nullable, but the string type only where strings can be marked. -/
def columnType (m : TypeMap) (remote : String) (nullable : Bool) : String :=
  let type := m.plainType remote
  if !nullable && type = m.stringType then type else type ++ m.nullableMark

/-- The same for the type of a parameter. -/
def parameterType (m : TypeMap) (type : String) (nullable : Bool) : String :=
  let kind := Scalar.ofName type
  if kind = .string && !nullable then m.scalarName kind else m.scalarName kind ++ m.nullableMark

end TypeMap
end EntityGen
