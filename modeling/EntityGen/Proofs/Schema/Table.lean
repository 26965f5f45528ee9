import Mathlib
import EntityGen.Schema.Table

/-! The tables that rows describe: their names, their columns, and the rows that they are flattened to. -/

namespace EntityGen.Table

variable {t : Table} {ts us : List Table} {rs : List TableRow} {r : TableRow} {name : String}

/-! ## Names -/

theorem map_name_addRow (ts : List Table) (r : TableRow) : (addRow ts r).map (·.name) =
    if r.table ∈ ts.map (·.name) then ts.map (·.name) else ts.map (·.name) ++ [r.table] := by
  induction ts with
  | nil => rfl
  | cons t ts ih =>
    by_cases h : t.name = r.table
    · simp [addRow, h]
    · simp only [addRow, if_neg h, List.map_cons, ih, List.mem_cons, Ne.symm h, false_or]
      split <;> rfl

theorem map_name_foldl (ts : List Table) (rs : List TableRow) :
    (rs.foldl addRow ts).map (·.name) =
      ts.map (·.name) ++ ((rs.map (·.table)).filter fun name => !decide (name ∈ ts.map (·.name))).eraseDups := by
  induction rs generalizing ts with
  | nil => simp
  | cons r rs ih =>
    rw [List.foldl_cons, ih, map_name_addRow, List.map_cons]
    by_cases h : r.table ∈ ts.map (·.name)
    · rw [if_pos h, List.filter_cons_of_neg (by simpa using h)]
    · rw [if_neg h, List.filter_cons_of_pos (by simpa using h), List.eraseDups_cons, List.filter_filter,
        List.append_assoc, List.singleton_append]
      congr 3
      apply List.filter_congr
      intro name _
      by_cases hn : name = r.table <;> simp [hn]

/-- There is one table for each name, in the order in which the rows name them first. -/
theorem map_name_ofRows (rs : List TableRow) : (ofRows rs).map (·.name) = (rs.map (·.table)).eraseDups := by
  rw [ofRows, map_name_foldl, List.filter_eq_self.2 (by simp)]
  rfl

theorem nodup_addRow (h : (ts.map (·.name)).Nodup) : ((addRow ts r).map (·.name)).Nodup := by
  rw [map_name_addRow]
  split
  · exact h
  · next hr => exact List.concat_eq_append ▸ h.concat hr

theorem nodup_map_name_ofRows (rs : List TableRow) : ((ofRows rs).map (·.name)).Nodup := by
  induction rs using List.reverseRecOn with
  | nil => exact List.nodup_nil
  | append_singleton rs r ih =>
    rw [ofRows_append_singleton]
    exact nodup_addRow ih

/-! ## Columns -/

/-- The columns of the first table with a name. -/
def columnsAt (ts : List Table) (name : String) : List Column :=
  ((ts.find? (·.name = name)).map (·.columns)).getD []

/-- The columns that rows give to the table with a name. -/
def columnsIn (rs : List TableRow) (name : String) : List Column :=
  (rs.filter fun r => r.table = name ∧ r.column ≠ "").map fun r => ⟨r.column, r.type⟩

theorem columnsIn_append_singleton (rs : List TableRow) (r : TableRow) (name : String) :
    columnsIn (rs ++ [r]) name = columnsIn rs name ++ if r.table = name then columnsOf r else [] := by
  by_cases ht : r.table = name <;> by_cases hc : r.column = "" <;> simp [columnsIn, columnsOf, ht, hc]

/-- A row adds to the columns of its own table and leaves the other tables as they are. -/
theorem columnsAt_addRow (ts : List Table) (r : TableRow) (name : String) :
    columnsAt (addRow ts r) name = columnsAt ts name ++ if r.table = name then columnsOf r else [] := by
  induction ts with
  | nil => by_cases h : r.table = name <;> simp [addRow, columnsAt, h]
  | cons t ts ih =>
    rw [addRow]
    by_cases ht : t.name = r.table
    · rw [if_pos ht]
      by_cases h : r.table = name <;> simp [columnsAt, ht, h]
    · rw [if_neg ht]
      by_cases h : t.name = name
      · have hr : r.table ≠ name := fun hr => ht (h.trans hr.symm)
        simp [columnsAt, h, hr]
      · simpa [columnsAt, h] using ih

theorem columnsAt_ofRows (rs : List TableRow) (name : String) : columnsAt (ofRows rs) name = columnsIn rs name := by
  induction rs using List.reverseRecOn with
  | nil => rfl
  | append_singleton rs r ih => rw [ofRows_append_singleton, columnsAt_addRow, ih, columnsIn_append_singleton]

theorem columnsAt_name (hname : (ts.map (·.name)).Nodup) (ht : t ∈ ts) : columnsAt ts t.name = t.columns := by
  induction ts with
  | nil => cases ht
  | cons u ts ih =>
    rw [List.map_cons, List.nodup_cons] at hname
    rcases List.mem_cons.1 ht with rfl | ht
    · simp [columnsAt]
    · have hne : u.name ≠ t.name := fun h => hname.1 (h ▸ List.mem_map_of_mem ht)
      simpa [columnsAt, hne] using ih hname.2 ht

theorem columns_of_mem_ofRows (ht : t ∈ ofRows rs) : t.columns = columnsIn rs t.name := by
  rw [← columnsAt_name (nodup_map_name_ofRows rs) ht, columnsAt_ofRows]

/-- All rows at once: a table for each name, with the columns of all the rows that name it. -/
theorem ofRows_eq (rs : List TableRow) :
    ofRows rs = (rs.map (·.table)).eraseDups.map fun name => ⟨name, columnsIn rs name⟩ := by
  have heach : ∀ t ∈ ofRows rs, t = ⟨t.name, columnsIn rs t.name⟩ := fun t ht => by
    rw [← columns_of_mem_ofRows ht]
  calc ofRows rs = (ofRows rs).map fun t => ⟨t.name, columnsIn rs t.name⟩ := by
        conv_lhs => rw [← List.map_id (ofRows rs)]
        exact List.map_congr_left heach
    _ = ((ofRows rs).map (·.name)).map fun name => ⟨name, columnsIn rs name⟩ := by rw [List.map_map]; rfl
    _ = (rs.map (·.table)).eraseDups.map fun name => ⟨name, columnsIn rs name⟩ := by rw [map_name_ofRows]

theorem sum_addRow (ts : List Table) (r : TableRow) :
    ((addRow ts r).map (·.columns.length)).sum = (ts.map (·.columns.length)).sum + (columnsOf r).length := by
  induction ts with
  | nil => simp [addRow]
  | cons t ts ih =>
    rw [addRow]
    split
    · simp only [List.map_cons, List.sum_cons, List.length_append]
      omega
    · rw [List.map_cons, List.sum_cons, ih, List.map_cons, List.sum_cons, Nat.add_assoc]

/-- No column is lost and none is made up. -/
theorem sum_ofRows (rs : List TableRow) :
    ((ofRows rs).map (·.columns.length)).sum = (rs.filter fun r => r.column ≠ "").length := by
  induction rs using List.reverseRecOn with
  | nil => rfl
  | append_singleton rs r ih =>
    rw [ofRows_append_singleton, sum_addRow, ih, List.filter_append, List.length_append]
    by_cases hc : r.column = "" <;> simp [columnsOf, hc]

/-! ## Rows of tables -/

/-- Tables as they come of rows: no name is there twice, and no column lacks one. -/
structure IsGrouped (ts : List Table) : Prop where
  nodup : (ts.map (·.name)).Nodup
  named : ∀ t ∈ ts, ∀ c ∈ t.columns, c.name ≠ ""

theorem isGrouped_ofRows (rs : List TableRow) : IsGrouped (ofRows rs) where
  nodup := nodup_map_name_ofRows rs
  named := by
    intro t ht c hc
    rw [columns_of_mem_ofRows ht, columnsIn, List.mem_map] at hc
    obtain ⟨r, hr, rfl⟩ := hc
    have hkept := List.mem_filter.1 hr
    exact (of_decide_eq_true hkept.2).2

/-- Rows of other tables go past the tables in front. -/
theorem addRow_append (h : r.table ∉ ts.map (·.name)) : addRow (ts ++ us) r = ts ++ addRow us r := by
  induction ts with
  | nil => rfl
  | cons t ts ih =>
    rw [List.map_cons, List.mem_cons, not_or] at h
    rw [List.cons_append, addRow, if_neg (Ne.symm h.1), ih h.2, List.cons_append]

theorem foldl_addRow_append (h : ∀ r ∈ rs, r.table ∉ ts.map (·.name)) :
    rs.foldl addRow (ts ++ us) = ts ++ rs.foldl addRow us := by
  induction rs generalizing us with
  | nil => rfl
  | cons r rs ih =>
    rw [List.forall_mem_cons] at h
    rw [List.foldl_cons, addRow_append h.1, ih h.2, List.foldl_cons]

/-- The columns of one table are put one behind the other. -/
theorem foldl_addRow_columns {cs ds : List Column} (h : ∀ d ∈ ds, d.name ≠ "") :
    (ds.map fun d => (⟨name, d.name, d.type⟩ : TableRow)).foldl addRow [⟨name, cs⟩] = [⟨name, cs ++ ds⟩] := by
  induction ds generalizing cs with
  | nil => simp
  | cons d ds ih =>
    rw [List.forall_mem_cons] at h
    have hadd : addRow [⟨name, cs⟩] ⟨name, d.name, d.type⟩ = [⟨name, cs ++ [d]⟩] := by
      simp [addRow, columnsOf, h.1]
    rw [List.map_cons, List.foldl_cons, hadd, ih h.2, List.append_assoc, List.singleton_append]

theorem ofRows_rows (h : ∀ c ∈ t.columns, c.name ≠ "") : ofRows t.rows = [t] := by
  obtain ⟨name, columns⟩ := t
  cases columns with
  | nil => rfl
  | cons c cs =>
    rw [List.forall_mem_cons] at h
    have hfirst : addRow [] ⟨name, c.name, c.type⟩ = [⟨name, [c]⟩] := by simp [addRow, columnsOf, h.1]
    simp only [rows, List.isEmpty_cons, Bool.false_eq_true, if_false, ofRows, List.map_cons, List.foldl_cons, hfirst]
    exact foldl_addRow_columns h.2

theorem table_of_mem_rows (h : r ∈ t.rows) : r.table = t.name := by
  rw [rows] at h
  split at h
  · rw [List.mem_singleton.1 h]
  · obtain ⟨c, _, rfl⟩ := List.mem_map.1 h
    rfl

/-- The tables stand for themselves again once their rows are read, behind those that are there already. -/
theorem foldl_flatMap_rows (h : IsGrouped (ts ++ us)) : (us.flatMap rows).foldl addRow ts = ts ++ us := by
  induction us generalizing ts with
  | nil => simp
  | cons u us ih =>
    have hnew : u.name ∉ ts.map (·.name) := fun hmem => by
      have hnodup := h.nodup
      rw [List.map_append, List.map_cons] at hnodup
      exact (List.disjoint_of_nodup_append hnodup) hmem List.mem_cons_self
    have hu : u.rows.foldl addRow ts = ts ++ [u] := by
      calc u.rows.foldl addRow ts = u.rows.foldl addRow (ts ++ []) := by rw [List.append_nil]
        _ = ts ++ ofRows u.rows := foldl_addRow_append fun r hr => by rwa [table_of_mem_rows hr]
        _ = ts ++ [u] := by rw [ofRows_rows (h.named u (by simp))]
    rw [List.flatMap_cons, List.foldl_append, hu, ih (by simpa using h), List.append_assoc, List.singleton_append]

/-- Grouping undoes flattening. -/
theorem IsGrouped.ofRows_flatMap_rows (h : IsGrouped ts) : ofRows (ts.flatMap rows) = ts :=
  foldl_flatMap_rows (List.nil_append ts ▸ h)

/-- The tables come in the order in which the rows name them first, each of them once, also if all its rows
lack a column. Each has the columns of the rows that name it, in their order and as often as they are there.
Their rows are grouped to the same tables again. -/
theorem ofRows_groups (rs : List TableRow) :
    ofRows rs = (rs.map (·.table)).eraseDups.map (fun name => ⟨name, columnsIn rs name⟩) ∧
      ((ofRows rs).map (·.name)).Nodup ∧
      ((ofRows rs).map (·.columns.length)).sum = (rs.filter fun r => r.column ≠ "").length ∧
      ofRows ((ofRows rs).flatMap rows) = ofRows rs :=
  ⟨ofRows_eq rs, nodup_map_name_ofRows rs, sum_ofRows rs, (isGrouped_ofRows rs).ofRows_flatMap_rows⟩

end EntityGen.Table
