import EntityGen.Failure
import EntityGen.Schema.Table

/-! Where schemas come from. -/

namespace EntityGen

/-- A question about a database. -/
inductive Call
  | tables (database : String)
  | functions (database : String)
  | probe (function : String) (arguments : List String) (database : String)
  deriving DecidableEq, Inhabited

/-- Answers about databases. Every answer may depend on the calls before it, the latest one first. -/
structure Catalog where
  tables : List Call → (database : String) → Except Failure (List TableRow)
  functions : List Call → (database : String) → Except Failure (List FunctionListing)
  probe : List Call → (function : String) → (arguments : List String) → (database : String) →
    Except Failure (List Column)

end EntityGen
