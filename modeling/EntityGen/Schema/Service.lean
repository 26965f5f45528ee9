import EntityGen.Emission.Artifact
import EntityGen.Json
import EntityGen.Schema.Catalog
import EntityGen.Value.Text
import EntityGen.Web.Address
import EntityGen.Web.Body

/-! Schemas that a cluster reports over HTTP. -/

namespace EntityGen

/-- Where a cluster is and how it is spoken to. -/
structure Service where
  cluster : String
  token : String
  /-- Seconds to wait for an answer. -/
  timeout : Value

/-- A command for a database, sent to an address. -/
structure Request where
  url : String
  database : String
  command : String
  timeout : Value

/-- What is wrong with the answer to a request. -/
def Request.failure (r : Request) (fault : TransportFault) : Failure :=
  .transport fault (some r.database) (some r.command)

/-- Why a request came to nothing. -/
inductive RequestFault
  | timeout
  | connection
  /-- A status that reports a failure, without a response. -/
  | status
  /-- The request could not be put together. -/
  | value
  | other (reason : String)
  deriving DecidableEq, Inhabited

/-- What comes back for a request. -/
inductive Response
  | answer (status : Int) (body : String)
  | fault (f : RequestFault)
  deriving DecidableEq, Inhabited

namespace Service

def tablesCommand : String := ".show schema"

def functionsCommand : String := ".show functions"

def controlPath : String := "/v1/rest/mgmt"

def queryPath : String := "/v1/rest/query"

/-- A service needs an address and a token. Slashes at the end of the address do not matter. -/
def create (cluster token : String) (timeout : Value) : Except Failure Service :=
  if cluster.isEmpty then .error (.ofField "cluster" .required)
  else if token.isEmpty then .error (.ofField "token" .required)
  else .ok ⟨String.ofList (Text.dropEnd (· = '/') cluster.toList), token, timeout⟩

def headers (s : Service) : List (String × String) :=
  [("Authorization", "Bearer " ++ s.token), ("Content-Type", "application/json; charset=utf-8"),
    ("Accept", "application/json")]

def request (s : Service) : Call → Request
  | .tables database => ⟨s.cluster ++ controlPath, database, tablesCommand, s.timeout⟩
  | .functions database => ⟨s.cluster ++ controlPath, database, functionsCommand, s.timeout⟩
  | .probe function arguments database =>
    ⟨s.cluster ++ queryPath, database, probeQuery function arguments, s.timeout⟩

/-- Whether a request can be put together: its address must be one of the web, and the token must fit into
a header. -/
def isSendable (s : Service) (url : String) : Bool :=
  Web.isAddress url && s.headers.all fun h => Web.isHeaderValue h.2

/-- The value in the body of a response. -/
def bodyValue (r : Request) (body : String) : Except Failure Value :=
  match Web.bodyText? body.toUTF8.toList with
  | none => .error (r.failure .notJson)
  | some text =>
    match Json.parse text with
    | .ok v => .ok v
    | .error .malformed => .error (r.failure .notJson)
    | .error .tooDeep => .error (.data .tooDeep)

/-- The value that a response brings. A status from 400 to 599 is a failure. -/
def payload (s : Service) (r : Request) (response : Response) : Except Failure Value :=
  if s.isSendable r.url then
    match response with
    | .answer status body =>
      if 400 ≤ status ∧ status < 600 then .error (r.failure (.status (some status.toNat)))
      else bodyValue r body
    | .fault .timeout => .error (r.failure .timedOut)
    | .fault .connection => .error (r.failure (.unreachable s.cluster))
    | .fault .status => .error (r.failure (.status none))
    | .fault .value => .error (r.failure .notJson)
    | .fault (.other reason) => .error (r.failure (.request reason))
  else .error (r.failure .notJson)

/-- What a loop over a value runs through. -/
def elements? : Value → Option (List Value)
  | .list vs => some vs
  | .text s => some (s.toList.map fun c => .text (String.ofList [c]))
  | .halves codes => some (codes.map fun n => .ofCodes [n])
  | .map entries => some (entries.map (·.1))
  | _ => none

/-- The value of a field of a mapping that must have it. -/
def field? (name : String) : Value → Option Value
  | .map entries => Value.lookup? entries name
  | _ => none

/-- Binds the cells of a row to the names of the columns, as far as both go. -/
def bindCells (row : List (Value × Value)) : List Value → List Value → Option (List (Value × Value))
  | name :: names, cell :: cells =>
    if name.isKey then bindCells (Value.bind name cell row) names cells else none
  | _, _ => some row

/-- The rows of a result table, by the names of its columns. -/
def tableRows? (table : Value) : Option (List (List (Value × Value))) := do
  let columns ← elements? (← field? "Columns" table)
  let names ← columns.mapM (field? "ColumnName")
  let rows ← elements? (← field? "Rows" table)
  rows.mapM fun row => do bindCells [] names (← elements? row)

/-- The rows of the first result table. -/
def firstTableRows (v : Value) : Except TransportFault (List (List (Value × Value))) :=
  match field? "Tables" v with
  | some (.list (table :: _)) =>
    match tableRows? table with
    | some rows => .ok rows
    | none => .error .tableShape
  | _ => .error .noTables

/-- Every row must have these columns. -/
def requireColumns (columns : List String) :
    List (List (Value × Value)) → Except TransportFault Unit
  | [] => .ok ()
  | row :: rest =>
    match columns.filter fun name => (Value.lookup? row name).isNone with
    | [] => requireColumns columns rest
    | missing => .error (.missingColumns missing)

/-- The rows that answer a call. -/
def rows (s : Service) (call : Call) (columns : List String) (response : Response) :
    Except Failure (List (List (Value × Value))) := do
  let r := s.request call
  let v ← s.payload r response
  let rows ← (firstTableRows v).mapError r.failure
  (requireColumns columns rows).mapError r.failure
  return rows

/-- A cell as a text, where whatever counts as false is no text at all. -/
def optionalText (row : List (Value × Value)) (name : String) : Except Failure String :=
  let v := Value.lookup row name
  if v.truthy then v.toText else .ok ""

def cellText (row : List (Value × Value)) (name : String) : Except Failure String :=
  (Value.lookup row name).toText

def tableRow (row : List (Value × Value)) : Except Failure TableRow :=
  return ⟨← cellText row "TableName", ← optionalText row "ColumnName", ← optionalText row "ColumnType"⟩

def functionListing (row : List (Value × Value)) : Except Failure FunctionListing :=
  return ⟨← cellText row "Name", ← optionalText row "Parameters"⟩

def resultColumn (row : List (Value × Value)) : Except Failure Column :=
  return ⟨← cellText row "ColumnName", ← cellText row "DataType"⟩

/-- The cluster reports all its databases, of which one is meant. -/
def isOf (database : String) (row : List (Value × Value)) : Bool :=
  (Value.lookup row "DatabaseName").isNamed database

/-- What a service makes of the responses to its calls. -/
def catalog (s : Service) (respond : List Call → Call → Response) : Catalog where
  tables before database := do
    let call := .tables database
    let rows ← s.rows call ["DatabaseName", "TableName"] (respond before call)
    (rows.filter (isOf database)).mapM tableRow
  functions before database := do
    let call := .functions database
    (← s.rows call ["Name", "Parameters"] (respond before call)).mapM functionListing
  probe before function arguments database := do
    let call := .probe function arguments database
    (← s.rows call ["ColumnName", "DataType"] (respond before call)).mapM resultColumn

end Service
end EntityGen
