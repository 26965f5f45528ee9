import EntityGen.Calendar
import EntityGen.Failure
import EntityGen.Text.Blank
import EntityGen.Text.Case

/-! Scalar types of the query language. -/

namespace EntityGen

/-- The scalar types, and one for every name that is none of theirs. -/
inductive Scalar
  | bool
  | datetime
  | decimal
  | guid
  | int
  | long
  | real
  | string
  | timespan
  | dynamic
  | unknown
  deriving DecidableEq, Inhabited

namespace Scalar

/-- Every kind goes by its own name. -/
def name : Scalar → String
  | .bool => "bool"
  | .datetime => "datetime"
  | .decimal => "decimal"
  | .guid => "guid"
  | .int => "int"
  | .long => "long"
  | .real => "real"
  | .string => "string"
  | .timespan => "timespan"
  | .dynamic => "dynamic"
  | .unknown => "unknown"

/-- The kind with a name in lower case. -/
def ofLower : String → Scalar
  | "bool" | "boolean" => .bool
  | "datetime" | "date" => .datetime
  | "decimal" => .decimal
  | "guid" | "uuid" | "uniqueid" => .guid
  | "int" => .int
  | "long" => .long
  | "real" | "double" => .real
  | "string" => .string
  | "timespan" | "time" => .timespan
  | "dynamic" => .dynamic
  | _ => .unknown

/-- Case and blanks around a name do not matter. -/
def ofName (s : String) : Scalar :=
  ofLower (String.ofList (Text.toLower (Text.trim s.toList)))

end Scalar

open Calendar

/-- A UTC time as a literal of the query language, down to the microsecond. -/
def instantLiteral (l : LocalTime) : String :=
  "datetime(" ++ toString l.date.year ++ "-" ++ digits 2 l.date.month ++ "-" ++ digits 2 l.date.day ++
    "T" ++ l.time.toSeconds ++ "." ++ digits 6 l.time.microsecond ++ "Z)"

/-- A literal of each kind to call a function with. The current time has one while the calendar lasts. -/
def Scalar.literal (now : ZonedTime) : Scalar → Except Failure String
  | .bool => .ok "false"
  | .datetime =>
    match now.utc? with
    | some l => .ok (instantLiteral l)
    | none => .error (.data .outsideCalendar)
  | .decimal | .int | .long | .real => .ok "-1"
  | .guid => .ok "guid(00000000-0000-0000-0000-000000000000)"
  | .string => .ok "''"
  | .timespan => .ok "timespan(00:00:01)"
  | .dynamic => .ok "dynamic(\x7b\x7d)"
  | .unknown => .ok "null"

/-- The literal for a parameter whose type goes by this name. -/
def argumentLiteral (now : ZonedTime) (type : String) : Except Failure String :=
  (Scalar.ofName type).literal now

end EntityGen
