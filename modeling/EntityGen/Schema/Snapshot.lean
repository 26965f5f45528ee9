import EntityGen.Emission.Artifact
import EntityGen.Schema.Catalog
import EntityGen.Value.Text

/-! Schemas that were written down before. -/

namespace EntityGen

/-- The databases of a snapshot by name. -/
structure Snapshot where
  databases : List (Value × Value)

/-- A function as a snapshot lists it. -/
structure ListedFunction where
  name : Value
  parameters : Value
  columns : List (Value × Value)

namespace Snapshot

def ofEntries (entries : List (Value × Value)) : Except Failure Snapshot :=
  match (Value.lookup entries "databases").entries? with
  | some databases => .ok ⟨databases⟩
  | none => .error (.ofField "snapshot" .noDatabases)

def fail {α : Type} (database : String) (fault : TransportFault) : Except Failure α :=
  .error (.transport fault (some database) none)

def database (s : Snapshot) (name : String) : Except Failure (List (Value × Value)) :=
  match (Value.lookup s.databases name).entries? with
  | some entries => .ok entries
  | none => fail name .unknownDatabase

/-- The entries of a mapping; anything that counts as false is an empty one. -/
def entries? (v : Value) : Option (List (Value × Value)) := if v.truthy then v.entries? else some []

def items? (v : Value) : Option (List Value) := if v.truthy then v.items? else some []

def columnsOf (entries : List (Value × Value)) : Except Failure (List Column) :=
  entries.mapM fun e => return ⟨← e.1.toText, ← e.2.toText⟩

/-- A table has a mapping for its columns, if any. -/
def tableColumns (database : String) (t : Value × Value) : Except Failure (Value × List (Value × Value)) := do
  match entries? t.2 with
  | some columns => return (t.1, columns)
  | none => fail database (.tableColumns (← t.1.toText))

/-- The tables of a database, each with its columns. -/
def tables (s : Snapshot) (name : String) : Except Failure (List Table) := do
  let db ← s.database name
  match entries? (Value.lookup db "tables") with
  | none => fail name .tablesShape
  | some tables =>
    let shaped ← tables.mapM (tableColumns name)
    shaped.mapM fun t => return ⟨← t.1.toText, ← columnsOf t.2⟩

/-- A function, listed at a place, that has a name, and a mapping for its columns if any. -/
def function (database : String) (index : Nat) (v : Value) : Except Failure ListedFunction :=
  match v.entries? with
  | none => fail database (.functionShape index)
  | some entries =>
    let name := Value.lookup entries "name"
    match name.text? with
    | none => fail database (.functionShape index)
    | some shown =>
      match entries? (Value.lookup entries "columns") with
      | some columns => .ok ⟨name, Value.lookup entries "parameters", columns⟩
      | none => fail database (.functionColumns shown)

def functionsFrom (database : String) (index : Nat) : List Value → Except Failure (List ListedFunction)
  | [] => .ok []
  | v :: rest => return (← function database index v) :: (← functionsFrom database (index + 1) rest)

def functions (s : Snapshot) (name : String) : Except Failure (List ListedFunction) := do
  let db ← s.database name
  match items? (Value.lookup db "functions") with
  | none => fail name .functionsShape
  | some items => functionsFrom name 0 items

/-- A function without parameters has an empty list of them. -/
def listing (f : ListedFunction) : Except Failure FunctionListing :=
  return ⟨← f.name.toText, ← if f.parameters.truthy then f.parameters.toText else pure "()"⟩

/-- The first function of a name answers for it. -/
def probe (s : Snapshot) (function : String) (arguments : List String) (database : String) :
    Except Failure (List Column) := do
  let listed ← s.functions database
  match listed.find? (·.name.isNamed function) with
  | some f => columnsOf f.columns
  | none =>
    .error (.transport (.unknownFunction function) (some database) (some (probeQuery function arguments)))

/-- A snapshot answers the same however often it is asked. -/
def catalog (s : Snapshot) : Catalog where
  tables _ database := return (← s.tables database).flatMap Table.rows
  functions _ database := do (← s.functions database).mapM listing
  probe _ function arguments database := s.probe function arguments database

end Snapshot
end EntityGen
