/-! Tables, functions and the rows that describe them. -/

namespace EntityGen

structure Column where
  name : String
  type : String
  deriving DecidableEq, Inhabited

/-- A column of a table. An empty column name says only that there is a table. -/
structure TableRow where
  table : String
  column : String
  type : String
  deriving DecidableEq, Inhabited

/-- A function and its parameter list as a text. -/
structure FunctionListing where
  name : String
  parameters : String
  deriving DecidableEq, Inhabited

structure Table where
  name : String
  columns : List Column
  deriving DecidableEq, Inhabited

namespace Table

/-- The columns that a row adds to its table. -/
def columnsOf (r : TableRow) : List Column :=
  if r.column.isEmpty then [] else [⟨r.column, r.type⟩]

/-- Adds a row to its table, which is put at the end if it is new. -/
def addRow (tables : List Table) (r : TableRow) : List Table :=
  match tables with
  | [] => [⟨r.table, columnsOf r⟩]
  | t :: rest =>
    if t.name = r.table then { t with columns := t.columns ++ columnsOf r } :: rest
    else t :: addRow rest r

/-- The tables of the rows in the order in which they are first named. -/
def ofRows (rows : List TableRow) : List Table := rows.foldl addRow []

/-- The rows that describe a table. -/
def rows (t : Table) : List TableRow :=
  if t.columns.isEmpty then [⟨t.name, "", ""⟩]
  else t.columns.map fun c => ⟨t.name, c.name, c.type⟩

@[simp] theorem ofRows_nil : ofRows [] = [] := rfl

theorem ofRows_append_singleton (rs : List TableRow) (r : TableRow) :
    ofRows (rs ++ [r]) = addRow (ofRows rs) r := by
  simp [ofRows]

end Table
end EntityGen
