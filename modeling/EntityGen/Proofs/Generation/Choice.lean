import EntityGen.Generation
import EntityGen.Proofs.Run
import EntityGen.Proofs.Schema.Table

/-! Choosing by name, among rows or among the tables that they make up. It does not matter which comes first. -/

namespace EntityGen.Table

variable {p : String → Bool} {ts : List Table} {rs : List TableRow} {r : TableRow}

/-- A row that is dropped has only touched a table that is dropped, and one that is kept is added as ever. -/
theorem filter_addRow (p : String → Bool) (ts : List Table) (r : TableRow) :
    (addRow ts r).filter (p ·.name) =
      if p r.table then addRow (ts.filter (p ·.name)) r else ts.filter (p ·.name) := by
  induction ts with
  | nil => cases hp : p r.table <;> simp [addRow, hp]
  | cons t ts ih =>
    by_cases ht : t.name = r.table
    · cases hp : p r.table <;> simp [addRow, ht, hp]
    · rw [addRow, if_neg ht]
      cases hp : p t.name with
      | false => simpa only [List.filter_cons, hp, Bool.false_eq_true, if_false] using ih
      | true =>
        simp only [List.filter_cons, hp, if_true, ih, addRow, if_neg ht]
        split <;> rfl

theorem ofRows_filter (p : String → Bool) (rs : List TableRow) :
    ofRows (rs.filter (p ·.table)) = (ofRows rs).filter (p ·.name) := by
  induction rs using List.reverseRecOn with
  | nil => rfl
  | append_singleton rs r ih =>
    rw [ofRows_append_singleton, filter_addRow, List.filter_append, ← ih]
    cases hp : p r.table with
    | false => simp [hp]
    | true =>
      rw [List.filter_singleton, hp]
      exact ofRows_append_singleton _ _

end EntityGen.Table

namespace EntityGen.Generation

open Run

/-- Rules may choose among the rows or among the tables: the same tables are kept, in the same order and with
the same columns. So a run that chooses among the rows works with those of all the tables that are kept. -/
theorem ofRows_filterBy (rules : List Rule) (rows : List TableRow) (s : Setting) (c : Config) (d : Database)
    (j : Journal) :
    Table.ofRows (filterBy rules TableRow.table rows) = (Table.ofRows rows).filter (keeps rules ·.name) ∧
    outcome (tablesOf s c d) j =
      ((s.catalog.tables j.calls d.name).map fun rows =>
        (Table.ofRows rows).filter (keeps (c.rulesForTables d) ·.name),
        { j with events := j.events ++ [.called (.tables d.name)] }) := by
  refine ⟨Table.ofRows_filter (keeps rules) rows, ?_⟩
  rw [tablesOf, outcome_bind, outcome_call]
  cases s.catalog.tables j.calls d.name with
  | error f => rfl
  | ok rows =>
    have hchoice := Table.ofRows_filter (keeps (c.rulesForTables d)) rows
    simp only [Except.map, ← hchoice]
    rfl

end EntityGen.Generation
