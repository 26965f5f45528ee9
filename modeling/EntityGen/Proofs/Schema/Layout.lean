import EntityGen.Proofs.Schema.Sources

/-! Result tables whose columns stand in another order or among others. -/

namespace EntityGen

open Value

/-- A result table: columns that have different texts for names, and rows with a cell for each of them. -/
structure ResultTable where
  names : List Value
  rows : List (List Value)
  named : ∀ name ∈ names, name.IsText
  distinct : names.Nodup
  aligned : ∀ cells ∈ rows, cells.length = names.length

namespace ResultTable

variable {t t' : ResultTable} {cells : List Value} {v : Value} {name : String}

/-- A row with the name of its column beside each cell. -/
def label (t : ResultTable) (cells : List Value) : List (Value × Value) := t.names.zip cells

theorem map_fst_label (h : cells ∈ t.rows) : (t.label cells).map (·.1) = t.names :=
  List.map_fst_zip (Nat.le_of_eq (t.aligned cells h).symm)

theorem lookup?_label (h : cells ∈ t.rows) :
    lookup? (t.label cells) name = some v ↔ (.text name, v) ∈ t.label cells :=
  lookup?_eq_some_iff ((map_fst_label h).symm ▸ t.distinct)

theorem isSome_lookup?_label (h : cells ∈ t.rows) :
    (lookup? (t.label cells) name).isSome ↔ .text name ∈ t.names := by
  simp only [Option.isSome_iff_exists, lookup?_label h, ← map_fst_label h, List.mem_map, Prod.exists,
    exists_and_right, exists_eq_right]

/-- The first of the result tables of a value; others may follow. -/
def IsFirstIn (t : ResultTable) (v : Value) : Prop :=
  ∃ table more columns, Service.field? "Tables" v = some (.list (table :: more)) ∧
    Service.field? "Columns" table = some (.list columns) ∧
      List.Forall₂ (fun c name => Service.field? "ColumnName" c = some name) columns t.names ∧
        Service.field? "Rows" table = some (.list (t.rows.map .list))

/-- One table has the columns of another one in some order, and besides them others that are added. All the cells
go along with their columns. -/
structure Rearranges (t t' : ResultTable) (added : List Value) : Prop where
  names : t'.names.Perm (t.names ++ added)
  rows : List.Forall₂ (fun cells cells' => ∃ more, more.length = added.length ∧
    (t'.label cells').Perm (t.label cells ++ added.zip more)) t.rows t'.rows

/-- A column that stands in a table can only stand in another place. It is not added. -/
theorem Rearranges.notMem_added {added : List Value} (h : t.Rearranges t' added) (hv : v ∈ t.names) : v ∉ added :=
  fun hadded => List.disjoint_of_nodup_append (h.names.nodup_iff.1 t'.distinct) hv hadded

/-- A row is about a database if that is the text of its cell. -/
def IsAbout (t : ResultTable) (database : String) (cells : List Value) : Prop :=
  (.text "DatabaseName", .text database) ∈ t.label cells

instance (t : ResultTable) (database : String) : DecidablePred (t.IsAbout database) :=
  fun cells => inferInstanceAs (Decidable ((.text "DatabaseName", .text database) ∈ t.label cells))

/-- A cell gives its text, and no text if it counts as false or is not there. -/
def Gives (t : ResultTable) (cells : List Value) (name text : String) : Prop :=
  (∃ v, (.text name, v) ∈ t.label cells ∧ v.truthy = true ∧ v.toText = .ok text) ∨
    text = "" ∧ ∀ v, (.text name, v) ∈ t.label cells → v.truthy = false

/-- What a row says about a column of a table. -/
structure Tells (t : ResultTable) (cells : List Value) (r : TableRow) : Prop where
  table : ∃ v, (.text "TableName", v) ∈ t.label cells ∧ v.toText = .ok r.table
  column : t.Gives cells "ColumnName" r.column
  type : t.Gives cells "ColumnType" r.type

end ResultTable

/-! ## What a call reads -/

/-- The columns that a call cannot do without. -/
def Call.required : Call → List String
  | .tables _ => ["DatabaseName", "TableName"]
  | .functions _ => ["Name", "Parameters"]
  | .probe _ _ _ => ["ColumnName", "DataType"]

/-- The columns that a call reads if they are there. -/
def Call.optional : Call → List String
  | .tables _ => ["ColumnName", "ColumnType"]
  | .functions _ | .probe _ _ _ => []

/-- Two catalogs answer a call with the same result or the same failure. -/
def Catalog.AnswersAs (k k' : Catalog) (before before' : List Call) : Call → Prop
  | .tables database => k.tables before database = k'.tables before' database
  | .functions database => k.functions before database = k'.functions before' database
  | .probe function arguments database =>
    k.probe before function arguments database = k'.probe before' function arguments database

/-- A catalog answers a call without a failure. -/
def Catalog.Returns (k : Catalog) (before : List Call) : Call → Prop
  | .tables database => ∃ rows, k.tables before database = .ok rows
  | .functions database => ∃ listings, k.functions before database = .ok listings
  | .probe function arguments database => ∃ columns, k.probe before function arguments database = .ok columns

namespace Service

open ResultTable

variable {s : Service} {t t' : ResultTable} {call : Call} {response response' : Response} {database name : String}

/-! ## Rows by the names of their columns -/

theorem bindCells_append (row : List (Value × Value)) {names cells : List Value}
    (hlength : cells.length = names.length) (htext : ∀ name ∈ row.map (·.1) ++ names, name.IsText)
    (hdistinct : (row.map (·.1) ++ names).Nodup) : bindCells row names cells = some (row ++ names.zip cells) := by
  induction names generalizing row cells with
  | nil => cases cells <;> simp [bindCells]
  | cons name names ih =>
    cases cells with
    | nil => cases hlength
    | cons c cells =>
      have hname : name.IsText := htext name (by simp)
      have hnew : ∀ e ∈ row, e.1.IsText ∧ e.1 ≠ name := by
        intro e he
        have hmem : e.1 ∈ row.map (·.1) := List.mem_map_of_mem he
        refine ⟨htext _ (List.mem_append_left _ hmem), fun heq => ?_⟩
        exact (List.disjoint_of_nodup_append hdistinct) (heq ▸ hmem) List.mem_cons_self
      rw [bindCells, if_pos hname.isKey, bind_of_new hname hnew, ih _ (Nat.succ.inj hlength)]
      · simp
      · simpa using htext
      · simpa using hdistinct

theorem firstTableRows_eq {v : Value} (h : t.IsFirstIn v) : firstTableRows v = .ok (t.rows.map t.label) := by
  obtain ⟨table, more, columns, htables, hcolumns, hnames, hrows⟩ := h
  have hn : columns.mapM (field? "ColumnName") = some t.names := mapM_eq_some_iff.2 hnames
  have hr : (t.rows.map Value.list).mapM (fun row => do bindCells [] t.names (← elements? row)) =
      some (t.rows.map t.label) := by
    refine mapM_eq_some_iff.2 (List.forall₂_map_left_iff.2 (List.forall₂_map_right_iff.2 ?_))
    refine List.forall₂_same.2 fun cells hcells => ?_
    exact bindCells_append [] (t.aligned cells hcells) t.named t.distinct
  have ht : tableRows? table = some (t.rows.map t.label) := by
    simp only [tableRows?, hcolumns, hrows, elements?, Option.bind_eq_bind, Option.bind_some, hn]
    exact hr
  simp only [firstTableRows, htables, ht]

/-- A response brings a result table. -/
def Delivers (s : Service) (call : Call) (response : Response) (t : ResultTable) : Prop :=
  ∃ v, s.payload (s.request call) response = .ok v ∧ t.IsFirstIn v

variable {columns : List String} {read read' : List (List (Value × Value))} {β : Type}

/-- Once a table is there, only a column can be missing. -/
theorem rows_eq (h : s.Delivers call response t) : s.rows call columns response = (do
    (requireColumns columns (t.rows.map t.label)).mapError (s.request call).failure
    return t.rows.map t.label) := by
  obtain ⟨v, hv, hfirst⟩ := h
  simp only [rows, hv, firstTableRows_eq hfirst, mapError_ok, Bind.bind, Except.bind]

theorem requireColumns_eq_ok_iff : requireColumns columns read = .ok () ↔
    ∀ row ∈ read, ∀ name ∈ columns, (lookup? row name).isSome := by
  induction read with
  | nil => simp [requireColumns]
  | cons row read ih =>
    have hmissing : columns.filter (fun name => (lookup? row name).isNone) = [] ↔
        ∀ name ∈ columns, (lookup? row name).isSome := by
      simp [List.filter_eq_nil_iff, Option.isSome_iff_ne_none]
    rw [requireColumns, List.forall_mem_cons, ← ih, ← hmissing]
    split
    · next hnone => simp [hnone]
    · next hsome => exact iff_of_false (fun h => by cases h) fun h => hsome h.1

theorem requireColumns_label_iff : requireColumns columns (t.rows.map t.label) = .ok () ↔
    t.rows = [] ∨ ∀ name ∈ columns, .text name ∈ t.names := by
  have hrows : requireColumns columns (t.rows.map t.label) = .ok () ↔
      ∀ cells ∈ t.rows, ∀ name ∈ columns, .text name ∈ t.names := by
    rw [requireColumns_eq_ok_iff, List.forall_mem_map]
    exact forall₂_congr fun cells hcells => forall₂_congr fun name _ => isSome_lookup?_label hcells
  rw [hrows]
  cases t.rows with
  | nil => simp
  | cons cells rows =>
    simp only [List.forall_mem_cons, reduceCtorEq, false_or, and_iff_left_iff_imp]
    exact fun hnames _ _ => hnames

theorem rows_eq_ok_label (h : s.Delivers call response t) : s.rows call columns response = .ok read ↔
    read = t.rows.map t.label ∧ (t.rows = [] ∨ ∀ name ∈ columns, .text name ∈ t.names) := by
  rw [rows_eq h, ← requireColumns_label_iff, bind_eq_ok_iff]
  simp only [mapError_eq_ok_iff]
  constructor
  · rintro ⟨_, hcolumns, ⟨⟩⟩
    exact ⟨rfl, hcolumns⟩
  · rintro ⟨rfl, hcolumns⟩
    exact ⟨(), hcolumns, rfl⟩

theorem exists_rows_bind_iff {f : List (List (Value × Value)) → Except Failure β}
    (h : s.Delivers call response t) (hf : ∀ read, (∀ row ∈ read, AllHaveText row) → ∃ b, f read = .ok b) :
    (∃ b, s.rows call columns response >>= f = .ok b) ↔
      t.rows = [] ∨ ∀ name ∈ columns, .text name ∈ t.names := by
  constructor
  · rintro ⟨b, hb⟩
    obtain ⟨read, hread, -⟩ := bind_eq_ok_iff.1 hb
    exact ((rows_eq_ok_label h).1 hread).2
  · intro hcolumns
    have hread := (rows_eq_ok_label h).2 ⟨rfl, hcolumns⟩
    obtain ⟨b, hb⟩ := hf _ (allHaveText_of_rows hread)
    exact ⟨b, bind_eq_ok_iff.2 ⟨_, hread, hb⟩⟩

variable {respond respond' : List Call → Call → Response} {before before' : List Call}

/-- A call returns if its columns are there, or if there are no rows to look at. -/
theorem returns_iff (h : s.Delivers call (respond before call) t) :
    (s.catalog respond).Returns before call ↔ t.rows = [] ∨ ∀ name ∈ call.required, .text name ∈ t.names := by
  cases call with
  | tables database =>
    refine exists_rows_bind_iff h fun read hread => exists_mapM fun row hrow => ?_
    exact exists_tableRow (hread row (List.mem_filter.1 hrow).1)
  | functions database =>
    exact exists_rows_bind_iff h fun read hread =>
      exists_mapM fun row hrow => exists_functionListing (hread row hrow)
  | probe function arguments database =>
    exact exists_rows_bind_iff h fun read hread =>
      exists_mapM fun row hrow => exists_resultColumn (hread row hrow)

/-! ## Rows with the same cells -/

/-- Two rows have the same cells under some names. -/
def SameCells (names : List String) (row row' : List (Value × Value)) : Prop :=
  ∀ name ∈ names, lookup? row name = lookup? row' name

variable {row row' : List (Value × Value)} {names : List String}

theorem SameCells.mono {more : List String} (h : SameCells more row row') (hn : names ⊆ more) :
    SameCells names row row' := fun name hname => h name (hn hname)

theorem isOf_congr (h : lookup? row "DatabaseName" = lookup? row' "DatabaseName") :
    isOf database row = isOf database row' := by
  rw [isOf, isOf, lookup, lookup, h]

theorem cellText_congr (h : lookup? row name = lookup? row' name) : cellText row name = cellText row' name := by
  rw [cellText, cellText, lookup, lookup, h]

theorem optionalText_congr (h : lookup? row name = lookup? row' name) :
    optionalText row name = optionalText row' name := by
  rw [optionalText, optionalText, lookup, lookup, h]

theorem requireColumns_congr (h : List.Forall₂ (SameCells columns) read read') :
    requireColumns columns read = requireColumns columns read' := by
  induction h with
  | nil => rfl
  | @cons row row' read read' hrow _ ih =>
    have hmissing : columns.filter (fun name => (lookup? row name).isNone) =
        columns.filter fun name => (lookup? row' name).isNone :=
      List.filter_congr fun name hname => by rw [hrow name hname]
    rw [requireColumns, requireColumns, hmissing, ih]

theorem rows_bind_congr {f : List (List (Value × Value)) → Except Failure β} (h : s.Delivers call response t)
    (h' : s.Delivers call response' t')
    (hcolumns : List.Forall₂ (SameCells columns) (t.rows.map t.label) (t'.rows.map t'.label))
    (hf : f (t.rows.map t.label) = f (t'.rows.map t'.label)) :
    s.rows call columns response >>= f = s.rows call columns response' >>= f := by
  rw [rows_eq h, rows_eq h', requireColumns_congr hcolumns]
  cases (requireColumns columns (t'.rows.map t'.label)).mapError (s.request call).failure with
  | error e => rfl
  | ok _ => exact hf

theorem answersAs_of_sameCells (h : s.Delivers call (respond before call) t)
    (h' : s.Delivers call (respond' before' call) t')
    (hcells : List.Forall₂ (SameCells (call.required ++ call.optional)) (t.rows.map t.label)
      (t'.rows.map t'.label)) :
    (s.catalog respond).AnswersAs (s.catalog respond') before before' call := by
  have hrequired : List.Forall₂ (SameCells call.required) (t.rows.map t.label) (t'.rows.map t'.label) :=
    hcells.imp fun row row' h => h.mono (List.subset_append_left _ _)
  cases call with
  | tables database =>
    refine rows_bind_congr h h' hrequired (mapM_congr_of_forall₂ ?_)
    have hown := List.rel_filter (p := isOf database) (q := isOf database) (fun row row' hrow =>
      Bool.eq_iff_iff.1 (isOf_congr (hrow "DatabaseName" (by simp [Call.required])))) hcells
    refine hown.imp fun row row' hrow => ?_
    rw [tableRow, tableRow, cellText_congr (hrow "TableName" (by simp [Call.required])),
      optionalText_congr (hrow "ColumnName" (by simp [Call.optional])),
      optionalText_congr (hrow "ColumnType" (by simp [Call.optional]))]
  | functions database =>
    refine rows_bind_congr h h' hrequired (mapM_congr_of_forall₂ (hcells.imp fun row row' hrow => ?_))
    rw [functionListing, functionListing, cellText_congr (hrow "Name" (by simp [Call.required])),
      optionalText_congr (hrow "Parameters" (by simp [Call.required]))]
  | probe function arguments database =>
    refine rows_bind_congr h h' hrequired (mapM_congr_of_forall₂ (hcells.imp fun row row' hrow => ?_))
    rw [resultColumn, resultColumn, cellText_congr (hrow "ColumnName" (by simp [Call.required])),
      cellText_congr (hrow "DataType" (by simp [Call.required]))]

variable {added : List Value}

theorem sameCells_of_rearranges (h : t.Rearranges t' added)
    (hnames : t.rows = [] ∨ ∀ name ∈ names, .text name ∉ added) :
    List.Forall₂ (SameCells names) (t.rows.map t.label) (t'.rows.map t'.label) := by
  refine List.forall₂_map_left_iff.2 (List.forall₂_map_right_iff.2 ?_)
  refine List.forall₂_iff_zip.2 ⟨h.rows.length_eq, fun {cells cells'} hmem name hname => ?_⟩
  obtain ⟨hcells, hcells'⟩ := List.of_mem_zip hmem
  obtain ⟨more, -, hperm⟩ := List.forall₂_zip h.rows hmem
  have hnew : .text name ∉ added := hnames.resolve_left (List.ne_nil_of_mem hcells) name hname
  refine Option.ext fun v => ?_
  rw [lookup?_label hcells', lookup?_label hcells, hperm.mem_iff, List.mem_append]
  exact (or_iff_left fun hadded => hnew (List.of_mem_zip hadded).1).symm

/-! ## What the rows tell -/

variable {cells : List Value}

theorem gives_of_optionalText {text : String} (hcells : cells ∈ t.rows)
    (h : optionalText (t.label cells) name = .ok text) : t.Gives cells name text := by
  rw [optionalText, lookup] at h
  cases hv : lookup? (t.label cells) name with
  | none =>
    rw [hv] at h
    cases h
    refine .inr ⟨rfl, fun v hmem => ?_⟩
    rw [(lookup?_label hcells).2 hmem] at hv
    cases hv
  | some v =>
    have hmem := (lookup?_label hcells).1 hv
    rw [hv] at h
    dsimp only [Option.getD_some] at h
    split at h
    · next ht => exact .inl ⟨v, hmem, ht, h⟩
    · next ht =>
      cases h
      refine .inr ⟨rfl, fun w hw => ?_⟩
      rw [(lookup?_label hcells).2 hw] at hv
      cases hv
      exact Bool.eq_false_iff.2 ht

theorem tells_of_tableRow {r : TableRow} (hcells : cells ∈ t.rows) (hname : .text "TableName" ∈ t.names)
    (h : tableRow (t.label cells) = .ok r) : t.Tells cells r := by
  obtain ⟨v, hv⟩ := Option.isSome_iff_exists.1 ((isSome_lookup?_label hcells).2 hname)
  simp only [tableRow, bind_eq_ok_iff] at h
  obtain ⟨table, htable, column, hcolumn, type, htype, ⟨⟩⟩ := h
  rw [cellText, lookup, hv] at htable
  exact ⟨⟨v, (lookup?_label hcells).1 hv, htable⟩, gives_of_optionalText hcells hcolumn,
    gives_of_optionalText hcells htype⟩

theorem isOf_label (hcells : cells ∈ t.rows) :
    isOf database (t.label cells) = decide (t.IsAbout database cells) := by
  rw [Bool.eq_iff_iff, decide_eq_true_iff, IsAbout, ← lookup?_label hcells, isOf, isNamed_iff, lookup]
  cases lookup? (t.label cells) "DatabaseName" <;> simp

/-- The rows about the database are told in their order, and no other ones. -/
theorem tells_of_tables {rows : List TableRow}
    (h : s.Delivers (.tables database) (respond before (.tables database)) t)
    (hrows : (s.catalog respond).tables before database = .ok rows) :
    List.Forall₂ t.Tells (t.rows.filter (t.IsAbout database)) rows := by
  obtain ⟨read, hread, hrows⟩ := bind_eq_ok_iff.1 hrows
  obtain ⟨rfl, hcolumns⟩ := (rows_eq_ok_label h).1 hread
  have hown : (t.rows.map t.label).filter (isOf database) =
      (t.rows.filter (t.IsAbout database)).map t.label := by
    rw [List.filter_map]
    exact congrArg _ (List.filter_congr fun cells hcells => isOf_label hcells)
  rw [hown, mapM_eq_ok_iff, List.forall₂_map_left_iff] at hrows
  refine List.forall₂_iff_zip.2 ⟨hrows.length_eq, fun {cells r} hmem => ?_⟩
  have hcells : cells ∈ t.rows := List.mem_of_mem_filter (List.of_mem_zip hmem).1
  have hnames := hcolumns.resolve_left (List.ne_nil_of_mem hcells)
  exact tells_of_tableRow hcells (hnames "TableName" (by simp)) (List.forall₂_zip hrows hmem)

/-- Where the columns of a result table stand does not matter, nor which others stand among them, nor which
tables follow. Only a column that is read may not be added. A call returns if the columns that it cannot do
without are there, and for the tables of a database it returns what the rows about that database say. -/
theorem catalog_ignores_layout (respond respond' : List Call → Call → Response) (before before' : List Call)
    (ht : s.Delivers call (respond before call) t) (ht' : s.Delivers call (respond' before' call) t')
    (h : t.Rearranges t' added) (hoptional : ∀ name ∈ call.optional, .text name ∉ added)
    (hrequired : (s.catalog respond).Returns before call ∨ ∀ name ∈ call.required, .text name ∉ added) :
    (s.catalog respond).AnswersAs (s.catalog respond') before before' call ∧
    ((s.catalog respond).Returns before call ↔ t.rows = [] ∨ ∀ name ∈ call.required, .text name ∈ t.names) ∧
    ∀ database rows, call = .tables database → (s.catalog respond).tables before database = .ok rows →
      List.Forall₂ t.Tells (t.rows.filter (t.IsAbout database)) rows := by
  refine ⟨answersAs_of_sameCells ht ht' (sameCells_of_rearranges h ?_), returns_iff ht, ?_⟩
  · rcases hrequired with hreturns | hrequired
    · refine ((returns_iff ht).1 hreturns).imp_right fun hnames => List.forall_mem_append.2 ⟨?_, hoptional⟩
      exact fun name hname => h.notMem_added (hnames name hname)
    · exact .inr (List.forall_mem_append.2 ⟨hrequired, hoptional⟩)
  · rintro database rows rfl hrows
    exact tells_of_tables ht hrows

end Service

/-- The tables of the library, as they are told. -/
def libraryTable : ResultTable where
  names := tableColumns.map .text
  rows := [[.text "L", .text "Book", .text "id", .text "System.Int32"],
    [.text "X", .text "Book", .text "no", .text "System.Guid"], [.text "L", .text "Shelf", .null, .null]]
  named := by simp [IsText]
  distinct := by decide +kernel
  aligned := by decide

def shuffledColumns : List String := ["TableName", "Folder", "ColumnType", "ColumnName", "DatabaseName"]

/-- The same tables, with columns in another order and one more among them. -/
def shuffledTable : ResultTable where
  names := shuffledColumns.map .text
  rows := [[.text "Book", .text "old", .text "System.Int32", .text "id", .text "L"],
    [.text "Book", .int 1, .text "System.Guid", .text "no", .text "X"],
    [.text "Shelf", .null, .null, .null, .text "L"]]
  named := by simp [IsText]
  distinct := by decide +kernel
  aligned := by decide

/-- A second result table follows. -/
def shuffledText : List Char :=
  let first := tableText shuffledColumns ["[\"Book\", \"old\", \"System.Int32\", \"id\", \"L\"]",
    "[\"Book\", 1, \"System.Guid\", \"no\", \"X\"]", "[\"Shelf\", null, null, null, \"L\"]"]
  first.dropLast.dropLast ++ ", \x7b\"Rows\": []\x7d]\x7d".toList

def shuffledResponse : Response := .answer 200 (String.ofList shuffledText)

theorem libraryTable_delivered :
    libraryService.Delivers (.tables "L") (libraryResponse (.tables "L")) libraryTable := by
  refine ⟨tableValue tableColumns libraryTable.rows, ?_, ⟨_, [], _, rfl, rfl, ?_, rfl⟩⟩
  · exact payload_of_parse (libraryService_isSendable _) (by decide +kernel) (by decide +kernel)
      (parse_ofList (by decide +kernel))
  · exact List.forall₂_map_left_iff.2 (List.forall₂_map_right_iff.2 (List.forall₂_same.2 fun n _ => rfl))

theorem shuffledTable_delivered : libraryService.Delivers (.tables "L") shuffledResponse shuffledTable := by
  let columns := shuffledColumns.map fun n => Value.map [(.text "ColumnName", .text n)]
  refine ⟨.map [(.text "Tables", .list [
      .map [(.text "Columns", .list columns), (.text "Rows", .list (shuffledTable.rows.map .list))],
      .map [(.text "Rows", .list [])]])], ?_, ⟨_, _, _, rfl, rfl, ?_, rfl⟩⟩
  · exact payload_of_parse (libraryService_isSendable _) (by decide +kernel) (by decide +kernel)
      (parse_ofList (by decide +kernel))
  · exact List.forall₂_map_left_iff.2 (List.forall₂_map_right_iff.2 (List.forall₂_same.2 fun n _ => rfl))

theorem libraryTable_rearranges : libraryTable.Rearranges shuffledTable [.text "Folder"] where
  names := by decide +kernel
  rows := .cons ⟨[.text "old"], rfl, by decide +kernel⟩ (.cons ⟨[.int 1], rfl, by decide +kernel⟩
    (.cons ⟨[.null], rfl, by decide +kernel⟩ .nil))

theorem catalog_ignores_layout_library :
    let c := libraryService.catalog fun _ => libraryResponse
    let c' := libraryService.catalog fun _ _ => shuffledResponse
    libraryService.Delivers (.tables "L") (libraryResponse (.tables "L")) libraryTable ∧
    libraryService.Delivers (.tables "L") shuffledResponse shuffledTable ∧
    libraryTable.Rearranges shuffledTable [.text "Folder"] ∧
    ∃ rows, c.tables [] "L" = .ok rows ∧ c'.tables [] "L" = .ok rows ∧
      List.Forall₂ libraryTable.Tells [[.text "L", .text "Book", .text "id", .text "System.Int32"],
        [.text "L", .text "Shelf", .null, .null]] rows := by
  intro c c'
  obtain ⟨hsame, hreturns, htells⟩ := Service.catalog_ignores_layout (fun _ => libraryResponse)
    (fun _ _ => shuffledResponse) [] [] libraryTable_delivered shuffledTable_delivered libraryTable_rearranges
    (by decide +kernel) (.inr (by decide +kernel))
  obtain ⟨rows, hrows⟩ := hreturns.2 (.inr (by decide +kernel))
  have hown : libraryTable.rows.filter (libraryTable.IsAbout "L") =
      [[.text "L", .text "Book", .text "id", .text "System.Int32"], [.text "L", .text "Shelf", .null, .null]] := by
    decide +kernel
  exact ⟨libraryTable_delivered, shuffledTable_delivered, libraryTable_rearranges, rows, hrows,
    hsame.symm.trans hrows, hown ▸ htells "L" rows rfl hrows⟩

end EntityGen
