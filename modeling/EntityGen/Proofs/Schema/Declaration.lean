import EntityGen.Proofs.Schema.Layout

/-! Result tables that lack a column that a call cannot do without. -/

namespace EntityGen

open Value

/-- A catalog answers a call with a failure. -/
def Catalog.FailsWith (k : Catalog) (before : List Call) (f : Failure) : Call → Prop
  | .tables database => k.tables before database = .error f
  | .functions database => k.functions before database = .error f
  | .probe function arguments database => k.probe before function arguments database = .error f

/-- A catalog answers a call as if there were nothing to tell. -/
def Catalog.ReturnsNothing (k : Catalog) (before : List Call) : Call → Prop
  | .tables database => k.tables before database = .ok []
  | .functions database => k.functions before database = .ok []
  | .probe function arguments database => k.probe before function arguments database = .ok []

namespace Service

variable {s : Service} {call : Call} {response : Response} {v table : Value} {name : String}
variable {row bound : List (Value × Value)} {read : List (List (Value × Value))} {columns : List String}

/-- The first of the result tables of a value. -/
def firstTable? (v : Value) : Option Value :=
  match field? "Tables" v with
  | some (.list (table :: _)) => some table
  | _ => none

/-- The columns of a table, as far as they can be looked at one by one. -/
def columns? (table : Value) : Option (List Value) := (field? "Columns" table).bind elements?

/-- The first result table has a column of that name. -/
def Declares (v : Value) (name : String) : Prop :=
  ∃ table columns, firstTable? v = some table ∧ columns? table = some columns ∧
    ∃ c ∈ columns, field? "ColumnName" c = some (.text name)

/-- The first result table has columns with names, and no rows. -/
def IsBlank (v : Value) : Prop :=
  ∃ table columns, firstTable? v = some table ∧ columns? table = some columns ∧
    (∀ c ∈ columns, ∃ name, field? "ColumnName" c = some name) ∧
      (field? "Rows" table).bind elements? = some []

theorem firstTableRows_eq_firstTable? (v : Value) : firstTableRows v =
    match firstTable? v with
    | some table =>
      match tableRows? table with
      | some rows => .ok rows
      | none => .error .tableShape
    | none => .error .noTables := by
  unfold firstTableRows firstTable?
  cases field? "Tables" v with
  | none => rfl
  | some w =>
    cases w with
    | list tables => cases tables <;> rfl
    | _ => rfl

theorem firstTableRows_of_none (h : firstTable? v = none) : firstTableRows v = .error .noTables := by
  rw [firstTableRows_eq_firstTable?, h]

theorem firstTableRows_of_some (h : firstTable? v = some table) :
    firstTableRows v = match tableRows? table with
      | some rows => .ok rows
      | none => .error .tableShape := by
  rw [firstTableRows_eq_firstTable?, h]

theorem tableRows?_eq_some_iff : tableRows? table = some read ↔
    ∃ columns names rows, columns? table = some columns ∧
      List.Forall₂ (fun c name => field? "ColumnName" c = some name) columns names ∧
        (field? "Rows" table).bind elements? = some rows ∧
          List.Forall₂ (fun row bound => ∃ cells, elements? row = some cells ∧
            bindCells [] names cells = some bound) rows read := by
  simp only [tableRows?, columns?, Option.bind_eq_bind, Option.bind_eq_some_iff, mapM_eq_some_iff]
  constructor
  · rintro ⟨w, hw, columns, hcolumns, names, hnames, w', hw', rows, hrows, hread⟩
    exact ⟨columns, names, rows, ⟨w, hw, hcolumns⟩, hnames, ⟨w', hw', hrows⟩, hread⟩
  · rintro ⟨columns, names, rows, ⟨w, hw, hcolumns⟩, hnames, ⟨w', hw', hrows⟩, hread⟩
    exact ⟨w, hw, columns, hcolumns, names, hnames, w', hw', rows, hrows, hread⟩

theorem isBlank_iff : IsBlank v ↔ ∃ table, firstTable? v = some table ∧ tableRows? table = some [] := by
  constructor
  · rintro ⟨table, columns, htable, hcolumns, hnames, hrows⟩
    obtain ⟨names, hnames⟩ := exists_forall₂ hnames
    exact ⟨table, htable, tableRows?_eq_some_iff.2 ⟨columns, names, [], hcolumns, hnames, hrows, .nil⟩⟩
  · rintro ⟨table, htable, hread⟩
    obtain ⟨columns, names, rows, hcolumns, hnames, hrows, hread⟩ := tableRows?_eq_some_iff.1 hread
    obtain rfl := List.forall₂_nil_right_iff.1 hread
    refine ⟨table, columns, htable, hcolumns, fun c hc => ?_, hrows⟩
    obtain ⟨name, -, hname⟩ := (exists_of_forall₂ hnames).1 c hc
    exact ⟨name, hname⟩

/-- Binding cells to the names of columns says nothing about any other name. -/
theorem lookup?_bindCells {names cells : List Value} (h : bindCells row names cells = some bound)
    (hn : .text name ∉ names) : lookup? bound name = lookup? row name := by
  induction names generalizing row cells with
  | nil =>
    cases h
    rfl
  | cons other names ih =>
    rw [List.mem_cons, not_or] at hn
    cases cells with
    | nil =>
      cases h
      rfl
    | cons c cells =>
      rw [bindCells] at h
      split at h
      · rw [ih h hn.2, lookup?_bind_of_ne (Ne.symm hn.1)]
      · cases h

/-- No row has a cell under a name that no column has. -/
theorem lookup?_of_not_declares (htable : firstTable? v = some table) (hread : tableRows? table = some read)
    (hd : ¬Declares v name) : ∀ row ∈ read, lookup? row name = none := by
  obtain ⟨columns, names, rows, hcolumns, hnames, -, hread⟩ := tableRows?_eq_some_iff.1 hread
  have hname : .text name ∉ names := fun hmem => by
    obtain ⟨c, hc, hcn⟩ := (exists_of_forall₂ hnames).2 _ hmem
    exact hd ⟨table, columns, htable, hcolumns, c, hc, hcn⟩
  intro bound hbound
  obtain ⟨row, -, cells, -, hcells⟩ := (exists_of_forall₂ hread).2 bound hbound
  rw [lookup?_bindCells hcells hname, lookup?_nil]

theorem requireColumns_cons_of_missing (hname : name ∈ columns) (hmissing : lookup? row name = none) :
    requireColumns columns (row :: read) =
      .error (.missingColumns (columns.filter fun name => (lookup? row name).isNone)) := by
  have hmem : name ∈ columns.filter fun name => (lookup? row name).isNone := by
    simp [hname, hmissing]
  rw [requireColumns]
  split
  · next hnone => rw [hnone] at hmem; cases hmem
  · rfl

theorem rows_of_firstTableRows {fault : TransportFault} (hv : s.payload (s.request call) response = .ok v)
    (h : firstTableRows v = .error fault) :
    s.rows call columns response = .error ((s.request call).failure fault) := by
  simp only [rows, hv, h, mapError_error, Bind.bind, Except.bind]

theorem rows_of_requireColumns {fault : TransportFault} (hv : s.payload (s.request call) response = .ok v)
    (hread : firstTableRows v = .ok read) (h : requireColumns columns read = .error fault) :
    s.rows call columns response = .error ((s.request call).failure fault) := by
  simp only [rows, hv, hread, h, mapError_ok, mapError_error, Bind.bind, Except.bind]

/-- What a call is told about a value whose first table lacks a column. -/
inductive Complaint (v : Value) (call : Call) : TransportFault → Prop
  | noTables (h : firstTable? v = none) : Complaint v call .noTables
  | tableShape {table : Value} (h : firstTable? v = some table) (hrows : tableRows? table = none) :
    Complaint v call .tableShape
  | missingColumns {missing : List String} (hsub : missing.Sublist call.required)
    (hall : ∀ name ∈ call.required, ¬Declares v name → name ∈ missing) :
    Complaint v call (.missingColumns missing)

theorem exists_complaint (hv : s.payload (s.request call) response = .ok v) (hname : name ∈ call.required)
    (hd : ¬Declares v name) (hblank : ¬IsBlank v) :
    ∃ fault, s.rows call call.required response = .error ((s.request call).failure fault) ∧
      Complaint v call fault := by
  cases htable : firstTable? v with
  | none => exact ⟨_, rows_of_firstTableRows hv (firstTableRows_of_none htable), .noTables htable⟩
  | some table =>
    have hfirst := firstTableRows_of_some htable
    cases hread : tableRows? table with
    | none =>
      rw [hread] at hfirst
      exact ⟨_, rows_of_firstTableRows hv hfirst, .tableShape htable hread⟩
    | some read =>
      rw [hread] at hfirst
      cases read with
      | nil => exact absurd (isBlank_iff.2 ⟨table, htable, hread⟩) hblank
      | cons row read =>
        have hmissing : ∀ name, ¬Declares v name → lookup? row name = none := fun name hd =>
          lookup?_of_not_declares htable hread hd row List.mem_cons_self
        have hrequire : requireColumns call.required (row :: read) = _ :=
          requireColumns_cons_of_missing hname (hmissing name hd)
        refine ⟨_, rows_of_requireColumns hv hfirst hrequire,
          .missingColumns List.filter_sublist fun other hother hd => ?_⟩
        simp [hother, hmissing other hd]

variable {respond : List Call → Call → Response} {before : List Call}

theorem failsWith_of_rows {f : Failure} (h : s.rows call call.required (respond before call) = .error f) :
    (s.catalog respond).FailsWith before f call := by
  cases call <;> simp only [Call.required] at h <;>
    simp only [Catalog.FailsWith, catalog, h, Bind.bind, Except.bind]

theorem returnsNothing_of_rows (h : s.rows call call.required (respond before call) = .ok []) :
    (s.catalog respond).ReturnsNothing before call := by
  cases call <;> simp only [Call.required] at h <;>
    simp only [Catalog.ReturnsNothing, catalog, h, Bind.bind, Except.bind] <;> rfl

/-- A column is missed where there is a row to look at. A table that has no rows says that there is nothing,
whatever its columns are. -/
theorem answer_of_not_declares (hv : s.payload (s.request call) (respond before call) = .ok v)
    (hname : name ∈ call.required) (hd : ¬Declares v name) :
    (IsBlank v → (s.catalog respond).ReturnsNothing before call) ∧
    (¬IsBlank v → ∃ fault, (s.catalog respond).FailsWith before ((s.request call).failure fault) call ∧
      Complaint v call fault) := by
  constructor
  · intro hblank
    obtain ⟨table, htable, hread⟩ := isBlank_iff.1 hblank
    have hrows : firstTableRows v = .ok [] := by rw [firstTableRows_of_some htable, hread]
    exact returnsNothing_of_rows (rows_eq_ok_iff.2 ⟨v, hv, hrows, rfl⟩)
  · intro hblank
    obtain ⟨fault, hrows, hfault⟩ := exists_complaint hv hname hd hblank
    exact ⟨fault, failsWith_of_rows hrows, hfault⟩

end Service

/-- Functions by their names alone. -/
def namesTable : Value := tableValue ["Name"] [[.text "Late"], [.text "All"]]

def namesResponse : Response := answerWith ["Name"] ["[\"Late\"]", "[\"All\"]"]

theorem payload_namesResponse :
    libraryService.payload (libraryService.request (.functions "L")) namesResponse = .ok namesTable :=
  payload_of_parse (libraryService_isSendable _) (by decide +kernel) (by decide +kernel)
    (parse_ofList (by decide +kernel))

def blankResponse : Response := answerWith ["Name"] []

theorem payload_blankResponse :
    libraryService.payload (libraryService.request (.functions "L")) blankResponse =
      .ok (tableValue ["Name"] []) :=
  payload_of_parse (libraryService_isSendable _) (by decide +kernel) (by decide +kernel)
    (parse_ofList (by decide +kernel))

theorem not_declares_parameters (rows : List (List Value)) :
    ¬Service.Declares (tableValue ["Name"] rows) "Parameters" := by
  rintro ⟨_, _, ⟨⟩, ⟨⟩, c, hc, hname⟩
  cases List.mem_singleton.1 hc
  have hsame : some (Value.text "Name") = some (.text "Parameters") := hname
  exact absurd hsame (by simp)

theorem answer_of_not_declares_functions :
    ¬Service.Declares namesTable "Parameters" ∧ ¬Service.Declares (tableValue ["Name"] []) "Parameters" ∧
    (∃ fault, (libraryService.catalog fun _ _ => namesResponse).functions [] "L" =
      .error ((libraryService.request (.functions "L")).failure fault) ∧
        Service.Complaint namesTable (.functions "L") fault) ∧
    (libraryService.catalog fun _ _ => blankResponse).functions [] "L" = .ok [] := by
  have hparameters : "Parameters" ∈ (Call.functions "L").required := by decide
  refine ⟨not_declares_parameters _, not_declares_parameters _, ?_, ?_⟩
  · refine (@Service.answer_of_not_declares _ _ _ _ (fun _ _ => namesResponse) [] payload_namesResponse
      hparameters (not_declares_parameters _)).2 ?_
    rintro ⟨_, _, ⟨⟩, -, -, ⟨⟩⟩
  · refine (@Service.answer_of_not_declares _ _ _ _ (fun _ _ => blankResponse) [] payload_blankResponse
      hparameters (not_declares_parameters _)).1 ?_
    exact ⟨_, _, rfl, rfl, by simp [Service.field?, lookup?, isNamed], rfl⟩

end EntityGen
