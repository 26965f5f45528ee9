import EntityGen.Schema.Service
import EntityGen.Schema.Snapshot
import EntityGen.Proofs.Blame

/-! No answer about schemas blames the configuration, wherever it comes from. -/

namespace EntityGen

/-- A catalog whose answers never blame the configuration. -/
structure Catalog.Blameless (c : Catalog) : Prop where
  tables : ∀ before database, EntityGen.Blameless (c.tables before database)
  functions : ∀ before database, EntityGen.Blameless (c.functions before database)
  probe : ∀ before function arguments database,
    EntityGen.Blameless (c.probe before function arguments database)

theorem Value.blameless_toText (v : Value) : Blameless v.toText := by
  unfold Value.toText
  split
  case h_5 =>
    split
    · exact .ok _
    · exact .error rfl
  all_goals exact .ok _

namespace Snapshot

theorem blameless_database (s : Snapshot) (name : String) : Blameless (s.database name) := by
  unfold database
  split
  · exact .ok _
  · exact .error rfl

theorem blameless_columnsOf (entries : List (Value × Value)) : Blameless (columnsOf entries) :=
  .mapM (fun e => e.1.blameless_toText.bind fun _ => e.2.blameless_toText.bind fun _ => .ok _) entries

theorem blameless_tableColumns (database : String) (t : Value × Value) : Blameless (tableColumns database t) := by
  unfold tableColumns
  split
  · exact .ok _
  · exact t.1.blameless_toText.bind fun _ => .error rfl

theorem blameless_tables (s : Snapshot) (name : String) : Blameless (s.tables name) := by
  refine (s.blameless_database name).bind fun db => ?_
  split
  · exact .error rfl
  · refine (Blameless.mapM (blameless_tableColumns name) _).bind fun shaped => .mapM (fun t => ?_) shaped
    exact t.1.blameless_toText.bind fun _ => (blameless_columnsOf t.2).bind fun _ => .ok _

theorem blameless_function (database : String) (index : Nat) (v : Value) :
    Blameless (function database index v) := by
  unfold function
  split
  · exact .error rfl
  · dsimp only
    split
    · exact .error rfl
    · split
      · exact .ok _
      · exact .error rfl

theorem blameless_functionsFrom (database : String) (index : Nat) (vs : List Value) :
    Blameless (functionsFrom database index vs) := by
  induction vs generalizing index with
  | nil => exact .ok []
  | cons v vs ih => exact (blameless_function database index v).bind fun _ => (ih _).bind fun _ => .ok _

theorem blameless_functions (s : Snapshot) (name : String) : Blameless (s.functions name) := by
  refine (s.blameless_database name).bind fun db => ?_
  split
  · exact .error rfl
  · exact blameless_functionsFrom name 0 _

theorem blameless_listing (f : ListedFunction) : Blameless (listing f) := by
  refine f.name.blameless_toText.bind fun _ => ?_
  dsimp only
  split
  · exact f.parameters.blameless_toText.bind fun _ => .ok _
  · exact .ok _

theorem blameless_catalog (s : Snapshot) : s.catalog.Blameless where
  tables _ database := (s.blameless_tables database).bind fun _ => .ok _
  functions _ database := (s.blameless_functions database).bind (.mapM blameless_listing)
  probe _ function arguments database := by
    refine (s.blameless_functions database).bind fun listed => ?_
    split
    · exact blameless_columnsOf _
    · exact .error rfl

end Snapshot

namespace Service

theorem blameless_bodyValue (r : Request) (body : String) : Blameless (bodyValue r body) := by
  unfold bodyValue
  split
  · exact .error rfl
  · split
    · exact .ok _
    all_goals exact .error rfl

theorem blameless_payload (s : Service) (r : Request) (response : Response) :
    Blameless (s.payload r response) := by
  unfold payload
  split
  · split
    · split
      · exact .error rfl
      · exact blameless_bodyValue r _
    all_goals exact .error rfl
  · exact .error rfl

theorem blameless_rows (s : Service) (call : Call) (columns : List String) (response : Response) :
    Blameless (s.rows call columns response) := by
  refine (s.blameless_payload _ response).bind fun v => ?_
  refine (Blameless.mapError fun _ => rfl).bind fun rows => ?_
  exact (Blameless.mapError fun _ => rfl).bind fun _ => .ok rows

theorem blameless_cellText (row : List (Value × Value)) (name : String) : Blameless (cellText row name) :=
  Value.blameless_toText _

theorem blameless_optionalText (row : List (Value × Value)) (name : String) :
    Blameless (optionalText row name) := by
  unfold optionalText
  dsimp only
  split
  · exact Value.blameless_toText _
  · exact .ok _

theorem blameless_catalog (s : Service) (respond : List Call → Call → Response) :
    (s.catalog respond).Blameless where
  tables before database := by
    refine (s.blameless_rows _ _ _).bind fun rows => .mapM (fun row => ?_) _
    refine (blameless_cellText row _).bind fun _ => (blameless_optionalText row _).bind fun _ => ?_
    exact (blameless_optionalText row _).bind fun _ => .ok _
  functions before database := by
    refine (s.blameless_rows _ _ _).bind (.mapM fun row => ?_)
    exact (blameless_cellText row _).bind fun _ => (blameless_optionalText row _).bind fun _ => .ok _
  probe before function arguments database := by
    refine (s.blameless_rows _ _ _).bind (.mapM fun row => ?_)
    exact (blameless_cellText row _).bind fun _ => (blameless_cellText row _).bind fun _ => .ok _

end Service

end EntityGen
