import EntityGen.Proofs.Schema.Service
import EntityGen.Proofs.Value.Lookup

/-! The rows of a result table, read by the names of its columns. -/

namespace EntityGen.Service

open Value

variable {s : Service} {call : Call} {response : Response} {v w : Value} {names : List String}
  {cells : List Value} {rows : List (List Value)} {name : String} {row : List (Value × Value)}

/-- The first result table of a value has these columns and rows. -/
def Brings (v : Value) (names : List String) (rows : List (List Value)) : Prop :=
  ∃ table more columns, field? "Tables" v = some (.list (table :: more)) ∧
    field? "Columns" table = some (.list columns) ∧
      List.Forall₂ (fun c n => field? "ColumnName" c = some (.text n)) columns names ∧
        field? "Rows" table = some (.list (rows.map .list))

/-- A cell stands in a row under a name: wherever the name stands, the cell does. -/
def Under (names : List String) (cells : List Value) (name : String) (w : Value) : Prop :=
  name ∈ names ∧ ∀ n : Nat, names[n]? = some name → cells[n]? = some w

/-- Binding goes on from what is bound, and what is bound last counts. -/
theorem exists_bindCells (names : List String) (cells : List Value) (row : List (Value × Value)) :
    ∃ row', bindCells row (names.map .text) cells = some row' ∧
      ∀ name w, (∀ n : Nat, names[n]? = some name → cells[n]? = some w) →
        name ∈ names ∨ lookup? row name = some w → lookup? row' name = some w := by
  induction names generalizing cells row with
  | nil =>
    refine ⟨row, rfl, fun name w _ h => ?_⟩
    exact h.resolve_left List.not_mem_nil
  | cons other names ih =>
    cases cells with
    | nil =>
      refine ⟨row, rfl, fun name w hcells h => h.resolve_left fun hname => ?_⟩
      obtain ⟨n, hn⟩ := List.mem_iff_getElem?.1 hname
      exact nomatch hcells n hn
    | cons c cells =>
      obtain ⟨row', hbound, hrow⟩ := ih cells (bind (.text other) c row)
      refine ⟨row', hbound, fun name w hcells h => hrow name w (fun n => hcells (n + 1)) ?_⟩
      by_cases hother : other = name
      · subst hother
        have hc : some c = some w := hcells 0 rfl
        exact .inr (lookup?_bind_self.trans hc)
      · rw [lookup?_bind_of_ne fun h => hother (text.inj h)]
        exact h.imp_left fun hmem => (List.mem_cons.1 hmem).resolve_left (Ne.symm hother)

/-- A row as it is read binds the cells to the names that they stand under. -/
def ReadAs (names : List String) (cells : List Value) (row : List (Value × Value)) : Prop :=
  ∀ name w, Under names cells name w → lookup? row name = some w

theorem exists_tableRows? {table : Value} {columns : List Value}
    (hcolumns : field? "Columns" table = some (.list columns))
    (hnames : List.Forall₂ (fun c n => field? "ColumnName" c = some (.text n)) columns names)
    (hrows : field? "Rows" table = some (.list (rows.map .list))) :
    ∃ read, tableRows? table = some read ∧ List.Forall₂ (ReadAs names) rows read := by
  have hn : columns.mapM (field? "ColumnName") = some (names.map .text) :=
    mapM_eq_some_iff.2 (List.forall₂_map_right_iff.2 hnames)
  have hr : ∃ read, (rows.map Value.list).mapM (fun row => do bindCells [] (names.map .text) (← elements? row)) =
      some read ∧ List.Forall₂ (ReadAs names) rows read := by
    clear hrows
    induction rows with
    | nil => exact ⟨[], rfl, .nil⟩
    | cons cells rows ih =>
      obtain ⟨read, hread, hall⟩ := ih
      obtain ⟨row, hrow, hunder⟩ := exists_bindCells names cells []
      refine ⟨row :: read, ?_, .cons (fun name w hw => hunder name w hw.2 (.inl hw.1)) hall⟩
      rw [List.map_cons, List.mapM_cons, hread]
      simp only [elements?, Option.bind_eq_bind, Option.bind_some, hrow, Option.pure_def]
  obtain ⟨read, hread, hall⟩ := hr
  refine ⟨read, ?_, hall⟩
  simp only [tableRows?, hcolumns, hrows, elements?, Option.bind_eq_bind, Option.bind_some, hn]
  exact hread

theorem requireColumns_of_readAs {columns : List String} {read : List (List (Value × Value))}
    (hc : ∀ cells ∈ rows, ∀ name ∈ columns, ∃ w, Under names cells name w)
    (h : List.Forall₂ (ReadAs names) rows read) : requireColumns columns read = .ok () := by
  induction h with
  | nil => rfl
  | @cons cells row _ _ hrow _ ih =>
    obtain ⟨hcells, hrows⟩ := List.forall_mem_cons.1 hc
    have hnone : columns.filter (fun name => (lookup? row name).isNone) = [] := by
      refine List.filter_eq_nil_iff.2 fun name hname => ?_
      obtain ⟨w, hw⟩ := hcells name hname
      simp [hrow name w hw]
    rw [requireColumns, hnone]
    exact ih hrows

/-- If each row has a cell under every column that is needed, the rows are read one by one. -/
theorem exists_rows {columns : List String} (hv : s.payload (s.request call) response = .ok v)
    (hb : Brings v names rows) (hc : ∀ cells ∈ rows, ∀ name ∈ columns, ∃ w, Under names cells name w) :
    ∃ read, s.rows call columns response = .ok read ∧ List.Forall₂ (ReadAs names) rows read := by
  obtain ⟨table, more, entries, htables, hcolumns, hnames, hrows⟩ := hb
  obtain ⟨read, hread, hall⟩ := exists_tableRows? hcolumns hnames hrows
  refine ⟨read, rows_eq_ok_iff.2 ⟨v, hv, ?_, ?_⟩, hall⟩
  · simp only [firstTableRows, htables, hread]
  · exact requireColumns_of_readAs hc hall

end EntityGen.Service
