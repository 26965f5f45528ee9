import EntityGen.Schema.Signature
import EntityGen.Proofs.Schema.Result
import EntityGen.Proofs.Schema.Snapshot
import EntityGen.Proofs.Value.Equality
import EntityGen.Proofs.Web.Body

/-! A snapshot and a service that tell of the same database. -/

namespace EntityGen

open Service
open Value hiding bind

/-- A function of a database; it may have no parameter list. -/
structure DescribedFunction where
  name : String
  parameters : Option String
  columns : List Column
  deriving DecidableEq

/-- What there is in a database. -/
structure Schema where
  tables : List Table
  functions : List DescribedFunction
  deriving DecidableEq

/-- A value is a text, or nothing at all. -/
def IsOptional (v : Value) : Option String → Prop
  | some s => v.text? = some s
  | none => v = .null

/-! ## What a snapshot holds -/

/-- A mapping of the names of columns to their types. -/
def HoldsColumns (v : Value) (columns : List Column) : Prop :=
  ∃ es, Snapshot.entries? v = some es ∧
    List.Forall₂ (fun e c => e.1.text? = some c.name ∧ e.2.text? = some c.type) es columns

def HoldsFunction (v : Value) (f : DescribedFunction) : Prop :=
  ∃ es, v.entries? = some es ∧ lookup es "name" = .text f.name ∧
    IsOptional (lookup es "parameters") f.parameters ∧ HoldsColumns (lookup es "columns") f.columns

/-- The entries of a database in a snapshot hold what there is in it. -/
structure HoldsSchema (entries : List (Value × Value)) (x : Schema) : Prop where
  tables : ∃ ts, Snapshot.entries? (lookup entries "tables") = some ts ∧
    List.Forall₂ (fun e t => e.1.text? = some t.name ∧ HoldsColumns e.2 t.columns) ts x.tables
  functions : ∃ fs, Snapshot.items? (lookup entries "functions") = some fs ∧
    List.Forall₂ HoldsFunction fs x.functions

def Snapshot.Holds (s : Snapshot) (database : String) (x : Schema) : Prop :=
  ∃ entries, (lookup s.databases database).entries? = some entries ∧ HoldsSchema entries x

/-! ## What a service tells -/

/-- What is told of a table: its columns one by one, or once that it has none. -/
def Table.lines (t : Table) : List (String × Option Column) :=
  if t.columns.isEmpty then [(t.name, none)] else t.columns.map fun c => (t.name, some c)

/-- A row of a result table has a cell of some kind under a name. -/
def HasCell (names : List String) (cells : List Value) (name : String) (p : Value → Prop) : Prop :=
  ∃ w, Under names cells name w ∧ p w

structure TellsColumn (names : List String) (database : String) (cells : List Value)
    (line : String × Option Column) : Prop where
  database : HasCell names cells "DatabaseName" (· = .text database)
  table : HasCell names cells "TableName" (·.text? = some line.1)
  column : HasCell names cells "ColumnName" (IsOptional · (line.2.map (·.name)))
  type : HasCell names cells "ColumnType" (IsOptional · (line.2.map (·.type)))

structure TellsForeign (names : List String) (database : String) (cells : List Value) : Prop where
  database : HasCell names cells "DatabaseName" (· ≠ .text database)
  table : HasCell names cells "TableName" fun _ => True

/-- Rows tell of the tables of a database in order. Rows about other databases may stand anywhere. -/
inductive TellsTables (names : List String) (database : String) :
    List (List Value) → List (String × Option Column) → Prop
  | nil : TellsTables names database [] []
  | own {cells : List Value} {line : String × Option Column} {rest : List (List Value)}
      {told : List (String × Option Column)} : TellsColumn names database cells line →
      TellsTables names database rest told → TellsTables names database (cells :: rest) (line :: told)
  | foreign {cells : List Value} {rest : List (List Value)} {told : List (String × Option Column)} :
      TellsForeign names database cells → TellsTables names database rest told →
      TellsTables names database (cells :: rest) told

/-- A call is answered with a result table of which `p` says something. -/
def Service.Answers (s : Service) (call : Call) (response : Response)
    (p : List String → List (List Value) → Prop) : Prop :=
  ∃ v names rows, s.payload (s.request call) response = .ok v ∧ Brings v names rows ∧ p names rows

/-- The responses to a service tell what there is in a database. -/
structure Service.Tells (s : Service) (respond : List Call → Call → Response) (database : String)
    (x : Schema) : Prop where
  tables : ∀ before, s.Answers (.tables database) (respond before (.tables database)) fun names rows =>
    TellsTables names database rows (x.tables.flatMap Table.lines)
  functions : ∀ before, s.Answers (.functions database) (respond before (.functions database))
    fun names rows => List.Forall₂ (fun cells f => HasCell names cells "Name" (·.text? = some f.name) ∧
      HasCell names cells "Parameters" (IsOptional · f.parameters)) rows x.functions
  probe : ∀ before, ∀ f ∈ x.functions, ∀ arguments, s.Answers (.probe f.name arguments database)
    (respond before (.probe f.name arguments database)) fun names rows =>
      List.Forall₂ (fun cells c => HasCell names cells "ColumnName" (·.text? = some c.name) ∧
        HasCell names cells "DataType" (·.text? = some c.type)) rows f.columns

variable {α β : Type} {v : Value} {es row : List (Value × Value)} {text database name : String}
  {names : List String} {cells : List Value} {rows : List (List Value)} {line : String × Option Column}
  {told : List (String × Option Column)} {read : List (List (Value × Value))}

/-! ## Texts -/

/-- Only the empty text counts as false. -/
theorem text_eq_of_not_truthy (h : v.text? = some text) (ht : ¬v.truthy = true) : text = "" := by
  cases v with
  | text s =>
    cases h
    simpa [truthy] using ht
  | halves codes =>
    cases h
    have hcodes : codes = [] := by simpa [truthy] using ht
    rw [hcodes]
    rfl
  | _ => cases h

theorem optionalText_eq {o : Option String} (h : IsOptional (lookup row name) o) :
    optionalText row name = .ok (o.getD "") := by
  unfold optionalText
  dsimp only
  cases o with
  | none =>
    have hnull : lookup row name = .null := h
    rw [hnull]
    rfl
  | some s =>
    split
    · exact toText_of_text? h
    · next ht =>
      rw [text_eq_of_not_truthy h ht]
      rfl

/-! ## Reading a snapshot -/

namespace Snapshot

variable {x : Schema} {s : Snapshot}

theorem exists_statesColumn {columns : List Column} (h : HoldsColumns v columns) :
    ∃ es, HasEntries v es ∧ List.Forall₂ StatesColumn es columns := by
  obtain ⟨es, hes, hall⟩ := h
  exact ⟨es, entries?_eq_some_iff.1 hes, hall.imp fun e c hec => ⟨toText_of_text? hec.1, toText_of_text? hec.2⟩⟩

theorem tables_eq (h : s.Holds database x) : s.tables database = .ok x.tables := by
  obtain ⟨entries, hentries, ⟨ts, hts, htables⟩, -⟩ := h
  refine tables_eq_of_states ⟨entries, hentries, entries?_eq_some_iff.1 hts⟩ (htables.imp fun e t het => ?_)
  exact ⟨toText_of_text? het.1, exists_statesColumn het.2⟩

/-- A function as it is listed has the name, the parameters and the columns of one. -/
structure Lists (l : ListedFunction) (f : DescribedFunction) : Prop where
  name : l.name = .text f.name
  parameters : IsOptional l.parameters f.parameters
  columns : columnsOf l.columns = .ok f.columns

theorem exists_statesFunction {f : DescribedFunction} (h : HoldsFunction v f) :
    ∃ l, StatesFunction v l ∧ Lists l f := by
  obtain ⟨es, hes, hname, hparameters, hheld⟩ := h
  obtain ⟨columns, hcolumns, hall⟩ := exists_statesColumn hheld
  refine ⟨⟨.text f.name, lookup es "parameters", columns⟩, ⟨es, hes, hname, ⟨f.name, rfl⟩, rfl, hcolumns⟩, ?_⟩
  exact ⟨rfl, hparameters, ((readOff_columnsOf columns).ok_iff f.columns).2 hall⟩

theorem exists_functions (h : s.Holds database x) :
    ∃ ls, s.functions database = .ok ls ∧ List.Forall₂ Lists ls x.functions := by
  obtain ⟨entries, hentries, -, vs, hvs, hfunctions⟩ := h
  obtain ⟨ls, hstates, hall⟩ := exists_between (hfunctions.imp fun _ _ => exists_statesFunction)
  exact ⟨ls, functions_eq_ok_iff.2 ⟨entries, vs, hentries, items?_eq_some_iff.1 hvs, hstates⟩, hall⟩

/-- No parameter list, an empty one and two parentheses are read alike. -/
theorem exists_listing {l : ListedFunction} {f : DescribedFunction} (h : Lists l f) :
    ∃ p, listing l = .ok ⟨f.name, p⟩ ∧ ∀ database,
      Signature.parse f.name p database = Signature.parse f.name (f.parameters.getD "") database := by
  have hparameters := h.parameters
  simp only [listing, h.name, toText_text]
  by_cases ht : l.parameters.truthy = true
  · cases hf : f.parameters with
    | none =>
      rw [hf] at hparameters
      have hnull : l.parameters = .null := hparameters
      rw [hnull] at ht
      cases ht
    | some p =>
      rw [hf] at hparameters
      refine ⟨p, ?_, fun _ => rfl⟩
      simp only [if_pos ht, toText_of_text? hparameters]
      rfl
  · have hempty : f.parameters.getD "" = "" := by
      cases hf : f.parameters with
      | none => rfl
      | some p =>
        rw [hf] at hparameters
        exact text_eq_of_not_truthy hparameters ht
    refine ⟨"()", ?_, fun database => ?_⟩
    · simp only [if_neg ht]
      rfl
    · rw [hempty]
      rfl

theorem find?_eq {ls : List ListedFunction} {fs : List DescribedFunction} {f : DescribedFunction}
    (h : List.Forall₂ Lists ls fs) (hnames : (fs.map (·.name)).Nodup) (hf : f ∈ fs) :
    ∃ l, ls.find? (·.name.isNamed f.name) = some l ∧ Lists l f := by
  induction h with
  | nil => cases hf
  | @cons l g ls fs hlg _ ih =>
    rw [List.map_cons, List.nodup_cons] at hnames
    rcases List.mem_cons.1 hf with rfl | hf
    · exact ⟨l, List.find?_cons_of_pos (isNamed_iff.2 hlg.name), hlg⟩
    · obtain ⟨l', hl', hlf⟩ := ih hnames.2 hf
      refine ⟨l', ?_, hlf⟩
      rw [List.find?_cons_of_neg, hl']
      intro hl
      have hname : g.name = f.name := text.inj (hlg.name.symm.trans (isNamed_iff.1 hl))
      exact hnames.1 (hname ▸ List.mem_map_of_mem hf)

end Snapshot

/-! ## Reading responses -/

theorem HasCell.exists_under {p : Value → Prop} (h : HasCell names cells name p) :
    ∃ w, Under names cells name w := by
  obtain ⟨w, hw, -⟩ := h
  exact ⟨w, hw⟩

namespace Service

variable {s : Service} {respond : List Call → Call → Response} {x : Schema} {p : Value → Prop}

theorem lookup_of_hasCell (hr : ReadAs names cells row) (h : HasCell names cells name p) : p (lookup row name) := by
  obtain ⟨w, hw, hp⟩ := h
  rw [lookup, hr name w hw]
  exact hp

theorem tableRow_eq (hr : ReadAs names cells row) (h : TellsColumn names database cells line) :
    tableRow row = .ok ⟨line.1, (line.2.map (·.name)).getD "", (line.2.map (·.type)).getD ""⟩ := by
  have htable : (lookup row "TableName").text? = some line.1 := lookup_of_hasCell hr h.table
  rw [tableRow, cellText, toText_of_text? htable, optionalText_eq (lookup_of_hasCell hr h.column),
    optionalText_eq (lookup_of_hasCell hr h.type)]
  rfl

theorem mapM_tableRow_eq (ht : TellsTables names database rows told) (hr : List.Forall₂ (ReadAs names) rows read) :
    (read.filter (isOf database)).mapM tableRow =
      .ok (told.map fun line => ⟨line.1, (line.2.map (·.name)).getD "", (line.2.map (·.type)).getD ""⟩) := by
  induction ht generalizing read with
  | nil =>
    cases hr
    rfl
  | own hown _ ih =>
    cases hr with
    | cons hrow hrest =>
      have hof : isOf database _ = true := isNamed_iff.2 (lookup_of_hasCell hrow hown.database)
      rw [List.filter_cons_of_pos hof, List.mapM_cons, tableRow_eq hrow hown, ih hrest]
      rfl
  | foreign hforeign _ ih =>
    cases hr with
    | cons hrow hrest =>
      have hof : ¬isOf database _ = true := fun h =>
        lookup_of_hasCell hrow hforeign.database (isNamed_iff.1 h)
      rw [List.filter_cons_of_neg hof]
      exact ih hrest

theorem map_lines (t : Table) :
    t.lines.map (fun line => (⟨line.1, (line.2.map (·.name)).getD "", (line.2.map (·.type)).getD ""⟩ : TableRow)) =
      t.rows := by
  rw [Table.lines, Table.rows]
  split
  · rfl
  · rw [List.map_map]
    rfl

theorem exists_under_of_tellsTables (ht : TellsTables names database rows told) :
    ∀ cells ∈ rows, ∀ name ∈ ["DatabaseName", "TableName"], ∃ w, Under names cells name w := by
  induction ht with
  | nil => exact List.forall_mem_nil _
  | own hown _ ih =>
    refine List.forall_mem_cons.2 ⟨?_, ih⟩
    simp only [List.forall_mem_cons]
    exact ⟨hown.database.exists_under, hown.table.exists_under, List.forall_mem_nil _⟩
  | foreign hforeign _ ih =>
    refine List.forall_mem_cons.2 ⟨?_, ih⟩
    simp only [List.forall_mem_cons]
    exact ⟨hforeign.database.exists_under, hforeign.table.exists_under, List.forall_mem_nil _⟩

theorem tables_eq (h : s.Tells respond database x) (before : List Call) :
    (s.catalog respond).tables before database = .ok (x.tables.flatMap Table.rows) := by
  obtain ⟨v, names, rows, hv, hb, ht⟩ := h.tables before
  obtain ⟨read, hread, hall⟩ := exists_rows hv hb (exists_under_of_tellsTables ht)
  have hrows := mapM_tableRow_eq ht hall
  simp only [List.map_flatMap, map_lines] at hrows
  simp only [catalog, hread, Bind.bind, Except.bind]
  exact hrows

/-- Rows of which two cells are read. -/
theorem rows_bind_mapM_eq {γ : Type} {call : Call} {response : Response} {a b : String}
    {q q' : γ → Value → Prop} {f : List (Value × Value) → Except Failure β} {g : γ → β} {cs : List γ}
    (h : s.Answers call response fun names rows =>
      List.Forall₂ (fun cells c => HasCell names cells a (q c) ∧ HasCell names cells b (q' c)) rows cs)
    (hf : ∀ row c, q c (lookup row a) → q' c (lookup row b) → f row = .ok (g c)) :
    (s.rows call [a, b] response >>= fun read => read.mapM f) = .ok (cs.map g) := by
  obtain ⟨v, names, rows, hv, hb, hrows⟩ := h
  have hc : ∀ cells ∈ rows, ∀ name ∈ [a, b], ∃ w, Under names cells name w := by
    clear hb
    induction hrows with
    | nil => exact List.forall_mem_nil _
    | cons hcell _ ih =>
      refine List.forall_mem_cons.2 ⟨?_, ih⟩
      simp only [List.forall_mem_cons]
      exact ⟨hcell.1.exists_under, hcell.2.exists_under, List.forall_mem_nil _⟩
  obtain ⟨read, hread, hall⟩ := exists_rows hv hb hc
  rw [hread]
  refine mapM_eq_ok_iff.2 (List.forall₂_map_right_iff.2 ?_)
  clear hb hc hread
  induction hrows generalizing read with
  | nil =>
    cases hall
    exact .nil
  | cons hcell _ ih =>
    cases hall with
    | cons hrow hrest =>
      exact .cons (hf _ _ (lookup_of_hasCell hrow hcell.1) (lookup_of_hasCell hrow hcell.2)) (ih _ hrest)

theorem functions_eq (h : s.Tells respond database x) (before : List Call) :
    (s.catalog respond).functions before database =
      .ok (x.functions.map fun f => ⟨f.name, f.parameters.getD ""⟩) := by
  refine rows_bind_mapM_eq (h.functions before) fun row f hname hparameters => ?_
  rw [functionListing, cellText, toText_of_text? hname, optionalText_eq hparameters]
  rfl

theorem probe_eq (h : s.Tells respond database x) (before : List Call) {f : DescribedFunction}
    (hf : f ∈ x.functions) (arguments : List String) :
    (s.catalog respond).probe before f.name arguments database = .ok f.columns := by
  have hmap : f.columns.map (fun c => (⟨c.name, c.type⟩ : Column)) = f.columns := List.map_id _
  rw [← hmap]
  refine rows_bind_mapM_eq (h.probe before f hf arguments) fun row c hname htype => ?_
  rw [resultColumn, cellText, cellText, toText_of_text? hname, toText_of_text? htype]
  rfl

end Service

namespace Snapshot

variable {s : Snapshot} {x : Schema}

theorem probe_eq (h : s.Holds database x) (hnames : (x.functions.map (·.name)).Nodup) {f : DescribedFunction}
    (hf : f ∈ x.functions) (arguments : List String) : s.probe f.name arguments database = .ok f.columns := by
  obtain ⟨ls, hls, hall⟩ := exists_functions h
  obtain ⟨l, hl, hlf⟩ := find?_eq hall hnames hf
  rw [probe, hls]
  simp only [Bind.bind, Except.bind, hl, hlf.columns]

/-- Two listings name the same function, and their parameters are read alike. -/
def SameListing (database : String) (l l' : FunctionListing) : Prop :=
  l.name = l'.name ∧
    Signature.parse l.name l.parameters (some database) = Signature.parse l'.name l'.parameters (some database)

theorem exists_functions_catalog (h : s.Holds database x) (before : List Call) :
    ∃ ls, s.catalog.functions before database = .ok ls ∧
      List.Forall₂ (SameListing database) (x.functions.map fun f => ⟨f.name, f.parameters.getD ""⟩) ls := by
  obtain ⟨fs, hfs, hall⟩ := exists_functions h
  have hlisted : List.Forall₂ (fun l f => ∃ r, listing l = .ok r ∧
      SameListing database ⟨f.name, f.parameters.getD ""⟩ r) fs x.functions := hall.imp fun l f hlf => by
    obtain ⟨p, hp, hparse⟩ := exists_listing hlf
    exact ⟨⟨f.name, p⟩, hp, rfl, (hparse (some database)).symm⟩
  obtain ⟨ls, hls, hsame⟩ := exists_between hlisted
  refine ⟨ls, ?_, List.forall₂_map_left_iff.2 hsame.flip⟩
  simp only [catalog, hfs, Bind.bind, Except.bind]
  exact mapM_eq_ok_iff.2 hls

end Snapshot

/-- A snapshot that holds what there is in a database and a service that tells it lead to the same tables, to
functions with the same names whose parameters are read alike or refused alike, and to the same columns for
the result of each of them. -/
theorem catalogs_agree {s : Service} {respond : List Call → Call → Response} {snapshot : Snapshot}
    {database : String} {x : Schema} (hnames : (x.functions.map (·.name)).Nodup)
    (hsnapshot : snapshot.Holds database x) (hs : s.Tells respond database x) (before before' : List Call) :
    (∃ rows rows', (s.catalog respond).tables before database = .ok rows ∧
      snapshot.catalog.tables before' database = .ok rows' ∧ Table.ofRows rows = Table.ofRows rows') ∧
    ∃ ls ls', (s.catalog respond).functions before database = .ok ls ∧
      snapshot.catalog.functions before' database = .ok ls' ∧ ls.map (·.name) = x.functions.map (·.name) ∧
        List.Forall₂ (Snapshot.SameListing database) ls ls' ∧
          ∀ l ∈ ls, ∀ arguments, ∃ columns,
            (s.catalog respond).probe before l.name arguments database = .ok columns ∧
              snapshot.catalog.probe before' l.name arguments database = .ok columns := by
  have hrows : snapshot.catalog.tables before' database = .ok (x.tables.flatMap Table.rows) := by
    simp only [Snapshot.catalog, Snapshot.tables_eq hsnapshot]
    rfl
  obtain ⟨ls', hls', hsame⟩ := Snapshot.exists_functions_catalog hsnapshot before'
  refine ⟨⟨_, _, Service.tables_eq hs before, hrows, rfl⟩, _, ls', Service.functions_eq hs before, hls',
    List.map_map, hsame, fun l hl arguments => ?_⟩
  obtain ⟨f, hf, rfl⟩ := List.mem_map.1 hl
  exact ⟨f.columns, Service.probe_eq hs before hf arguments, Snapshot.probe_eq hsnapshot hnames hf arguments⟩

/-- A table with a column and one without, a function with parameters and one without. -/
def library : Schema where
  tables := [⟨"Book", [⟨"id", "System.Int32"⟩]⟩, ⟨"Shelf", []⟩]
  functions := [⟨"Late", some "(days:int)", [⟨"reader", "System.Guid"⟩]⟩, ⟨"All", none, []⟩]

def librarySnapshot : Snapshot where
  databases := [(.text "L", .map [
    (.text "tables", .map [(.text "Book", .map [(.text "id", .text "System.Int32")]), (.text "Shelf", .null)]),
    (.text "functions", .list [
      .map [(.text "name", .text "Late"), (.text "parameters", .text "(days:int)"),
        (.text "columns", .map [(.text "reader", .text "System.Guid")])],
      .map [(.text "name", .text "All")]])])]

def libraryService : Service := ⟨"https://cluster.test", "key", .int 60⟩

/-- The characters of a result table with these rows. -/
def tableText (names rows : List String) : List Char :=
  let columns := names.map fun n => "\x7b\"ColumnName\": \"".toList ++ n.toList ++ "\"\x7d".toList
  "\x7b\"Tables\": [\x7b\"Columns\": [".toList ++ ", ".toList.intercalate columns ++
    "], \"Rows\": [".toList ++ ", ".toList.intercalate (rows.map String.toList) ++ "]\x7d]\x7d".toList

def tableValue (names : List String) (rows : List (List Value)) : Value :=
  .map [(.text "Tables", .list [.map [
    (.text "Columns", .list (names.map fun n => .map [(.text "ColumnName", .text n)])),
    (.text "Rows", .list (rows.map .list))]])]

def tableColumns : List String := ["DatabaseName", "TableName", "ColumnName", "ColumnType"]

def answerWith (names rows : List String) : Response := .answer 200 (String.ofList (tableText names rows))

/-- A row about another database stands between those of the library. -/
def libraryResponse : Call → Response
  | .tables _ =>
    answerWith tableColumns ["[\"L\", \"Book\", \"id\", \"System.Int32\"]",
      "[\"X\", \"Book\", \"no\", \"System.Guid\"]", "[\"L\", \"Shelf\", null, null]"]
  | .functions _ =>
    answerWith ["Name", "Parameters"] ["[\"Late\", \"(days:int)\"]", "[\"All\", null]"]
  | .probe "Late" _ _ => answerWith ["ColumnName", "DataType"] ["[\"reader\", \"System.Guid\"]"]
  | .probe _ _ _ => answerWith ["ColumnName", "DataType"] []

theorem parse_ofList {cs : List Char}
    (h : Json.value (2 * cs.length + 2) Json.depthLimit (Json.skipSpace cs) = .ok (v, [])) :
    Json.parse (String.ofList cs) = .ok v := by
  rw [Json.parse, String.toList_ofList]
  simp only [h, Bind.bind, Except.bind]
  rfl

theorem payload_of_parse {s : Service} {call : Call} {body : String} (hs : s.isSendable (s.request call).url = true)
    (hmark : Web.byteOrderMark.isPrefixOf body.toUTF8.data.toList = false)
    (hstart : (body.toUTF8.data.toList.take 4).map (· == 0) = [false, false, false, false])
    (hv : Json.parse body = .ok v) : s.payload (s.request call) (.answer 200 body) = .ok v := by
  simp only [payload, if_pos hs, bodyValue, Web.bodyText?_eq hmark hstart, hv]
  rfl

theorem answers_of_parse (names : List String) (rows : List (List Value)) {s : Service} {call : Call}
    {body : String} {p : List String → List (List Value) → Prop} (hs : s.isSendable (s.request call).url = true)
    (hmark : Web.byteOrderMark.isPrefixOf body.toUTF8.data.toList = false)
    (hstart : (body.toUTF8.data.toList.take 4).map (· == 0) = [false, false, false, false])
    (hv : Json.parse body = .ok (tableValue names rows)) (hp : p names rows) :
    s.Answers call (.answer 200 body) p := by
  refine ⟨tableValue names rows, names, rows, payload_of_parse hs hmark hstart hv, ⟨_, [], _, rfl, rfl, ?_, rfl⟩, hp⟩
  exact List.forall₂_map_left_iff.2 (List.forall₂_same.2 fun n _ => rfl)

theorem under_head {w : Value} (h : name ∉ names) : Under (name :: names) (w :: cells) name w := by
  refine ⟨List.mem_cons_self, fun n hn => ?_⟩
  cases n with
  | zero => rfl
  | succ n =>
    have hn : names[n]? = some name := hn
    exact absurd (List.mem_of_getElem? hn) h

theorem Service.Under.tail {other : String} {c w : Value} (h : Under names cells name w) (hne : other ≠ name) :
    Under (other :: names) (c :: cells) name w := by
  refine ⟨List.mem_cons_of_mem _ h.1, fun n hn => ?_⟩
  cases n with
  | zero => exact absurd (Option.some.inj hn) hne
  | succ n => exact h.2 n hn

theorem libraryService_isSendable (call : Call) :
    libraryService.isSendable (libraryService.request call).url = true := by
  have hcontrol : libraryService.isSendable (libraryService.cluster ++ controlPath) = true := by decide +kernel
  have hquery : libraryService.isSendable (libraryService.cluster ++ queryPath) = true := by decide +kernel
  cases call with
  | tables _ => exact hcontrol
  | functions _ => exact hcontrol
  | probe _ _ _ => exact hquery

theorem libraryService_tells : libraryService.Tells (fun _ => libraryResponse) "L" library where
  tables _ := by
    refine answers_of_parse tableColumns [[.text "L", .text "Book", .text "id", .text "System.Int32"],
      [.text "X", .text "Book", .text "no", .text "System.Guid"], [.text "L", .text "Shelf", .null, .null]]
      (libraryService_isSendable _) (by decide +kernel) (by decide +kernel)
      (parse_ofList (by decide +kernel)) ?_
    refine .own ?_ (.foreign ?_ (.own ?_ .nil))
    · exact ⟨⟨_, under_head (by decide), rfl⟩, ⟨_, (under_head (by decide)).tail (by decide), rfl⟩,
        ⟨_, ((under_head (by decide)).tail (by decide)).tail (by decide), rfl⟩,
        ⟨_, (((under_head (by decide)).tail (by decide)).tail (by decide)).tail (by decide), rfl⟩⟩
    · exact ⟨⟨_, under_head (by decide), by simp⟩, ⟨_, (under_head (by decide)).tail (by decide), trivial⟩⟩
    · exact ⟨⟨_, under_head (by decide), rfl⟩, ⟨_, (under_head (by decide)).tail (by decide), rfl⟩,
        ⟨_, ((under_head (by decide)).tail (by decide)).tail (by decide), rfl⟩,
        ⟨_, (((under_head (by decide)).tail (by decide)).tail (by decide)).tail (by decide), rfl⟩⟩
  functions _ := by
    refine answers_of_parse ["Name", "Parameters"] [[.text "Late", .text "(days:int)"], [.text "All", .null]]
      (libraryService_isSendable _) (by decide +kernel) (by decide +kernel)
      (parse_ofList (by decide +kernel)) ?_
    refine .cons ⟨?_, ?_⟩ (.cons ⟨?_, ?_⟩ .nil)
    · exact ⟨_, under_head (by decide), rfl⟩
    · exact ⟨_, (under_head (by decide)).tail (by decide), rfl⟩
    · exact ⟨_, under_head (by decide), rfl⟩
    · exact ⟨_, (under_head (by decide)).tail (by decide), rfl⟩
  probe _ f hf arguments := by
    rcases List.mem_cons.1 hf with rfl | hf
    · refine answers_of_parse ["ColumnName", "DataType"] [[.text "reader", .text "System.Guid"]]
        (libraryService_isSendable _) (by decide +kernel)
        (by decide +kernel) (parse_ofList (by decide +kernel)) ?_
      exact .cons ⟨⟨_, under_head (by decide), rfl⟩, ⟨_, (under_head (by decide)).tail (by decide), rfl⟩⟩ .nil
    · obtain rfl := List.mem_singleton.1 hf
      exact answers_of_parse ["ColumnName", "DataType"] [] (libraryService_isSendable _)
        (by decide +kernel) (by decide +kernel) (parse_ofList (by decide +kernel)) .nil

theorem librarySnapshot_holds : librarySnapshot.Holds "L" library := by
  refine ⟨_, rfl, ⟨_, rfl, ?_⟩, ⟨_, rfl, ?_⟩⟩
  · exact .cons ⟨rfl, _, rfl, .cons ⟨rfl, rfl⟩ .nil⟩ (.cons ⟨rfl, _, rfl, .nil⟩ .nil)
  · exact .cons ⟨_, rfl, rfl, rfl, _, rfl, .cons ⟨rfl, rfl⟩ .nil⟩
      (.cons ⟨_, rfl, rfl, rfl, _, rfl, .nil⟩ .nil)

theorem catalogs_agree_library : (library.functions.map (·.name)).Nodup ∧ librarySnapshot.Holds "L" library ∧
    libraryService.Tells (fun _ => libraryResponse) "L" library ∧
    let c := libraryService.catalog fun _ => libraryResponse
    let c' := librarySnapshot.catalog
    (∃ rows rows', c.tables [] "L" = .ok rows ∧ c'.tables [] "L" = .ok rows' ∧
      Table.ofRows rows = Table.ofRows rows') ∧
    ∃ ls ls', c.functions [] "L" = .ok ls ∧ c'.functions [] "L" = .ok ls' ∧
      ls.map (·.name) = library.functions.map (·.name) ∧
        List.Forall₂ (Snapshot.SameListing "L") ls ls' ∧
          ∀ l ∈ ls, ∀ arguments, ∃ columns, c.probe [] l.name arguments "L" = .ok columns ∧
            c'.probe [] l.name arguments "L" = .ok columns :=
  ⟨by decide, librarySnapshot_holds, libraryService_tells,
    catalogs_agree (by decide) librarySnapshot_holds libraryService_tells [] []⟩

end EntityGen
