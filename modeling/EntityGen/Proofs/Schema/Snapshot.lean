import EntityGen.Schema.Snapshot
import EntityGen.Proofs.Outcome
import EntityGen.Proofs.Schema.Table
import EntityGen.Proofs.Value.Lookup
import EntityGen.Proofs.Value.Text

/-! What a snapshot states, and what is read off it. -/

namespace EntityGen

open Value

variable {α β : Type}

/-! ## Reading item by item -/

/-- What is read off a list item by item. There is a result exactly if there is one for each item, and then it
holds these in order. Otherwise a number is too long for a text, and one of the items is to blame. -/
structure ReadOff (R : α → β → Prop) (bad : α → Prop) (as : List α) (x : Except Failure (List β)) : Prop where
  ok_iff : ∀ bs, x = .ok bs ↔ List.Forall₂ R as bs
  exists_iff : (∃ bs, x = .ok bs) ↔ ∀ a ∈ as, ∃ b, R a b
  error : ∀ e, x = .error e → e = .data .numberTooLong ∧ ∃ a ∈ as, bad a

theorem ReadOff.mapM {R : α → β → Prop} {bad : α → Prop} {as : List α} {f : α → Except Failure β}
    (hok : ∀ a b, f a = .ok b ↔ R a b)
    (herror : ∀ a ∈ as, ∀ e, f a = .error e → e = .data .numberTooLong ∧ bad a) :
    ReadOff R bad as (as.mapM f) where
  ok_iff bs := by simp only [mapM_eq_ok_iff, hok]
  exists_iff := by
    constructor
    · rintro ⟨bs, hbs⟩ a ha
      obtain ⟨b, -, hab⟩ := (exists_of_forall₂ (mapM_eq_ok_iff.1 hbs)).1 a ha
      exact ⟨b, (hok a b).1 hab⟩
    · intro h
      refine exists_mapM fun a ha => ?_
      obtain ⟨b, hab⟩ := h a ha
      exact ⟨b, (hok a b).2 hab⟩
  error e he := by
    obtain ⟨a, ha, hfa⟩ := mapM_eq_error he
    obtain ⟨he, hbad⟩ := herror a ha e hfa
    exact ⟨he, a, ha, hbad⟩

namespace Snapshot

variable {s : Snapshot} {v : Value} {es ts : List (Value × Value)} {vs : List Value} {database : String}

/-! ## What counts as false -/

/-- What a value is made of, or nothing if the value counts as false. -/
inductive HasParts (parts? : Value → Option (List α)) (v : Value) : List α → Prop
  | present {as : List α} : parts? v = some as → HasParts parts? v as
  | absent : v.truthy = false → HasParts parts? v []

/-- A mapping with these entries, or something that counts as false and has none. -/
abbrev HasEntries : Value → List (Value × Value) → Prop := HasParts Value.entries?

/-- A list of these items, or something that counts as false and has none. -/
abbrev HasItems : Value → List Value → Prop := HasParts Value.items?

theorem parts_eq_some_iff {parts? : Value → Option (List α)} {as : List α}
    (hnil : parts? v = some as → ¬v.truthy = true → as = []) :
    (if v.truthy then parts? v else some []) = some as ↔ HasParts parts? v as := by
  split
  · next ht =>
    refine ⟨.present, fun h => ?_⟩
    cases h with
    | present h => exact h
    | absent hf => exact absurd ht (Bool.eq_false_iff.1 hf)
  · next ht =>
    constructor
    · rintro ⟨⟩
      exact .absent (Bool.eq_false_iff.2 ht)
    · rintro (h | _)
      · rw [hnil h ht]
      · rfl

theorem truthy_untie {number : Nat} {knot : Value} :
    (v : Value) → (v.truthy = true → knot.truthy = true) → (untie number knot v).truthy = v.truthy
  | .around n isMap, h => by
    rw [untie]
    split
    · exact h rfl
    · rfl
  | .knot n whole, h => by
    rw [untie]
    split
    · rfl
    · exact truthy_untie whole h
  | .list items, _ => by cases items <;> rfl
  | .map entries, _ => by cases entries <;> rfl
  | .pair _ _, _ | .null, _ | .bool _, _ | .int _, _ | .double _, _ | .text _, _ | .halves _, _ | .set _, _
  | .date _, _ | .time _ _, _ | .bytes _, _ => rfl

theorem truthy_opened (v : Value) : v.opened.truthy = v.truthy := by
  cases v with
  | knot n whole => exact truthy_untie whole id
  | _ => rfl

theorem eq_nil_of_entries? (h : v.entries? = some es) (ht : ¬v.truthy = true) : es = [] := by
  rw [Value.entries?] at h
  split at h
  · next hv =>
    cases h
    rw [← truthy_opened, hv] at ht
    simpa [truthy] using ht
  · cases h

theorem eq_nil_of_items? (h : v.items? = some vs) (ht : ¬v.truthy = true) : vs = [] := by
  rw [Value.items?] at h
  split at h
  · next hv =>
    cases h
    rw [← truthy_opened, hv] at ht
    simpa [truthy] using ht
  · cases h

theorem entries?_eq_some_iff : entries? v = some es ↔ HasEntries v es := parts_eq_some_iff eq_nil_of_entries?

theorem items?_eq_some_iff : items? v = some vs ↔ HasItems v vs := parts_eq_some_iff eq_nil_of_items?

/-! ## Databases -/

theorem database_eq_ok_iff {db : List (Value × Value)} :
    s.database database = .ok db ↔ (lookup s.databases database).entries? = some db := by
  rw [Snapshot.database]
  cases (lookup s.databases database).entries? <;> simp [fail]

/-! ## Columns -/

/-- A column is stated by its name and its type, each by its text. -/
structure StatesColumn (e : Value × Value) (c : Column) : Prop where
  name : e.1.toText = .ok c.name
  type : e.2.toText = .ok c.type

theorem readOff_columnsOf (es : List (Value × Value)) :
    ReadOff StatesColumn (fun e => e.1.LacksText ∨ e.2.LacksText) es (columnsOf es) := by
  refine .mapM (fun e c => ?_) fun e _ f h => ?_
  · rw [together_eq_ok_iff]
    constructor
    · rintro ⟨name, type, hname, htype, rfl⟩
      exact ⟨hname, htype⟩
    · intro h
      exact ⟨c.name, c.type, h.name, h.type, rfl⟩
  · rcases together_eq_error h with h | h
    · exact (lacksText_of_toText h).imp id .inl
    · exact (lacksText_of_toText h).imp id .inr

/-! ## Tables -/

/-- What a snapshot has for the tables of a database. -/
def HasTables (s : Snapshot) (database : String) (ts : List (Value × Value)) : Prop :=
  ∃ db, (lookup s.databases database).entries? = some db ∧ HasEntries (lookup db "tables") ts

/-- A table is stated by the text of its name and by its columns. -/
structure StatesTable (t : Value × Value) (table : Table) : Prop where
  name : t.1.toText = .ok table.name
  columns : ∃ es, HasEntries t.2 es ∧ List.Forall₂ StatesColumn es table.columns

/-- Each table can be told from the others by the text of its name, and each of its columns from none. -/
structure AreTold (ts : List (Value × Value)) : Prop where
  named : ∀ t ∈ ts, ∃ name, t.1.toText = .ok name
  distinct : ts.Pairwise fun t u => t.1.toText ≠ u.1.toText
  columns : ∀ t ∈ ts, ∃ es, HasEntries t.2 es ∧ ∀ e ∈ es, ∃ name, e.1.toText = .ok name ∧ name ≠ ""

/-- A table with the type of one of its columns having no text. -/
def LacksType (t : Value × Value) : Prop := ∃ es, HasEntries t.2 es ∧ ∃ e ∈ es, e.2.LacksText

def readTable (t : Value × List (Value × Value)) : Except Failure Table :=
  return ⟨← t.1.toText, ← columnsOf t.2⟩

theorem tableColumns_eq_ok_iff {t : Value × Value} {p : Value × List (Value × Value)} :
    tableColumns database t = .ok p ↔ p.1 = t.1 ∧ HasEntries t.2 p.2 := by
  rw [← entries?_eq_some_iff, tableColumns]
  cases entries? t.2 with
  | none =>
    refine iff_of_false (fun h => ?_) (by simp)
    obtain ⟨_, _, h⟩ := bind_eq_ok_iff.1 h
    cases h
  | some es => simp [Prod.ext_iff, pure, Except.pure, eq_comm]

theorem tableColumns_eq {t : Value × Value} (h : HasEntries t.2 es) : tableColumns database t = .ok (t.1, es) :=
  tableColumns_eq_ok_iff.2 ⟨rfl, h⟩

/-- A table is read in two steps: first the shape of its columns, then the texts. -/
theorem readTable_eq_ok_iff {t : Value × Value} {table : Table} :
    tableColumns database t >>= readTable = .ok table ↔ StatesTable t table := by
  rw [bind_eq_ok_iff]
  constructor
  · rintro ⟨p, hp, hread⟩
    obtain ⟨hkey, hes⟩ := tableColumns_eq_ok_iff.1 hp
    obtain ⟨name, columns, hname, hcolumns, rfl⟩ := together_eq_ok_iff.1 hread
    exact ⟨hkey ▸ hname, p.2, hes, ((readOff_columnsOf _).ok_iff _).1 hcolumns⟩
  · rintro ⟨hname, es, hes, hcolumns⟩
    refine ⟨(t.1, es), tableColumns_eq hes, together_eq_ok_iff.2 ⟨table.name, table.columns, hname, ?_, rfl⟩⟩
    exact ((readOff_columnsOf _).ok_iff _).2 hcolumns

/-- If all tables have the shape of their columns, one pass is as good as two. -/
theorem tables_eq_mapM (h : s.HasTables database ts) (hcolumns : ∀ t ∈ ts, ∃ es, HasEntries t.2 es) :
    s.tables database = ts.mapM fun t => tableColumns database t >>= readTable := by
  obtain ⟨db, hdb, hts⟩ := h
  have hshaped : ∃ shaped, ts.mapM (tableColumns database) = .ok shaped := exists_mapM fun t hmem => by
    obtain ⟨es, hes⟩ := hcolumns t hmem
    exact ⟨(t.1, es), tableColumns_eq hes⟩
  obtain ⟨shaped, hshaped⟩ := hshaped
  rw [tables, database_eq_ok_iff.2 hdb]
  simp only [Bind.bind, Except.bind, entries?_eq_some_iff.2 hts, hshaped]
  exact mapM_mapM hshaped

theorem tables_eq_of_states {tables : List Table} (h : s.HasTables database ts)
    (hall : List.Forall₂ StatesTable ts tables) : s.tables database = .ok tables := by
  have hcolumns : ∀ t ∈ ts, ∃ es, HasEntries t.2 es := fun t hmem => by
    obtain ⟨table, -, hstates⟩ := (exists_of_forall₂ hall).1 t hmem
    obtain ⟨es, hes, -⟩ := hstates.columns
    exact ⟨es, hes⟩
  rw [tables_eq_mapM h hcolumns]
  exact mapM_eq_ok_iff.2 (hall.imp fun _ _ => readTable_eq_ok_iff.2)

theorem hasEntries_unique {es es' : List (Value × Value)} (h : HasEntries v es) (h' : HasEntries v es') :
    es = es' :=
  Option.some.inj ((entries?_eq_some_iff.2 h).symm.trans (entries?_eq_some_iff.2 h'))

/-- Only the type of a column can be in the way of tables that are told apart. -/
theorem readOff_tables (h : s.HasTables database ts) (ht : AreTold ts) :
    ReadOff StatesTable LacksType ts (s.tables database) := by
  rw [tables_eq_mapM h fun t hmem => (ht.columns t hmem).imp fun _ => And.left]
  refine .mapM (fun _ _ => readTable_eq_ok_iff) fun t hmem f hf => ?_
  obtain ⟨es, hes, hnamed⟩ := ht.columns t hmem
  rw [tableColumns_eq hes] at hf
  rcases together_eq_error hf with hf | hf
  · obtain ⟨name, hname⟩ := ht.named t hmem
    rw [hname] at hf
    cases hf
  · obtain ⟨hf, e, he, hlacks⟩ := (readOff_columnsOf es).error f hf
    obtain ⟨name, hname, -⟩ := hnamed e he
    exact ⟨hf, es, hes, e, he, hlacks.resolve_left fun hl => hl.ne_ok name hname⟩

theorem LacksType.not_statesTable {t : Value × Value} {table : Table} (h : LacksType t) : ¬StatesTable t table := by
  rintro ⟨-, es, hes, hcolumns⟩
  obtain ⟨es', hes', e, he, hlacks⟩ := h
  obtain ⟨c, -, hcolumn⟩ := (exists_of_forall₂ hcolumns).1 e (hasEntries_unique hes' hes ▸ he)
  exact hlacks.ne_ok c.type hcolumn.type

theorem nodup_of_states {tables : List Table} (hd : ts.Pairwise fun t u => t.1.toText ≠ u.1.toText)
    (h : List.Forall₂ StatesTable ts tables) : (tables.map (·.name)).Nodup := by
  induction h with
  | nil => exact List.nodup_nil
  | @cons t table ts tables htable hall ih =>
    obtain ⟨hne, hd⟩ := List.pairwise_cons.1 hd
    refine List.nodup_cons.2 ⟨fun hmem => ?_, ih hd⟩
    obtain ⟨other, hother, hname⟩ := List.mem_map.1 hmem
    obtain ⟨u, hu, hstates⟩ := (exists_of_forall₂ hall).2 other hother
    exact hne u hu (by rw [htable.name, hstates.name, hname])

theorem isGrouped_of_states {tables : List Table} (ht : AreTold ts) (h : List.Forall₂ StatesTable ts tables) :
    Table.IsGrouped tables where
  nodup := nodup_of_states ht.distinct h
  named table htable c hc := by
    obtain ⟨t, hmem, hstates⟩ := (exists_of_forall₂ h).2 table htable
    obtain ⟨es, hes, hcolumns⟩ := hstates.columns
    obtain ⟨es', hes', hnamed⟩ := ht.columns t hmem
    obtain ⟨e, he, hcolumn⟩ := (exists_of_forall₂ hcolumns).2 c hc
    obtain ⟨name, hname, hne⟩ := hnamed e (hasEntries_unique hes' hes ▸ he)
    rw [hcolumn.name] at hname
    cases hname
    exact hne

/-- If the tables of a snapshot are told apart, its rows are grouped to them: each in its place, with its columns in
their order, and with none if what stands for them counts as false. Only a type with a number that is too long for
a text can be in the way. -/
theorem catalog_tables_states (h : s.HasTables database ts) (ht : AreTold ts) (before : List Call) :
    ReadOff StatesTable LacksType ts ((s.catalog.tables before database).map Table.ofRows) := by
  have hread := readOff_tables h ht
  have hgrouped : (s.catalog.tables before database).map Table.ofRows = s.tables database := by
    cases htables : s.tables database with
    | error f =>
      simp only [catalog, htables]
      rfl
    | ok tables =>
      have hrows := (isGrouped_of_states ht ((hread.ok_iff tables).1 htables)).ofRows_flatMap_rows
      simp only [catalog, htables]
      exact congrArg Except.ok hrows
  rwa [hgrouped]

/-- Names and types that are no texts, and columns that count as false. -/
def typedTables : List (Value × Value) :=
  [(.int 1, .map [(.bool false, .text "System.Int32"), (.text "when", .list [.null])]), (.text "Empty", .null),
    (.text "Bare", .map []), (.text "Off", .int 0)]

/-- A number for a type is too long for a text. -/
def longColumns : List (Value × Value) := [(.text "a", .int (10 ^ Number.digitLimit : Nat))]

def longTables : List (Value × Value) := [(.text "T", .map longColumns)]

def typedSnapshot : Snapshot where
  databases := [
    (.text "D", .map [(.text "tables", .map typedTables), (.text "functions", .list [
      .map [(.text "name", .text "F"), (.text "columns", .map [(.int 1, .null)])],
      .map [(.text "name", .text "F"), (.text "parameters", .int 5), (.text "columns", .bool false)],
      .map [(.text "name", .text "G"), (.text "columns", .map longColumns)]])]),
    (.text "L", .map [(.text "tables", .map longTables), (.text "functions", .list [.text "F"])])]

theorem areTold_typedTables : AreTold typedTables where
  named := by
    simp only [typedTables, List.forall_mem_cons, toText_text]
    exact ⟨⟨"1", by decide +kernel⟩, ⟨_, rfl⟩, ⟨_, rfl⟩, ⟨_, rfl⟩, nofun⟩
  distinct := by decide +kernel
  columns := by
    simp only [typedTables, List.forall_mem_cons]
    refine ⟨⟨_, .present rfl, ?_⟩, ⟨_, .absent rfl, nofun⟩, ⟨_, .present rfl, nofun⟩,
      ⟨_, .absent rfl, nofun⟩, nofun⟩
    simp only [List.forall_mem_cons, toText_text]
    exact ⟨⟨"False", by decide +kernel, by decide⟩, ⟨_, rfl, by decide⟩, nofun⟩

theorem areTold_longTables : AreTold longTables where
  named := List.forall_mem_singleton.2 ⟨_, toText_text _⟩
  distinct := List.pairwise_singleton _ _
  columns := List.forall_mem_singleton.2
    ⟨_, .present rfl, List.forall_mem_singleton.2 ⟨_, toText_text _, by decide⟩⟩

theorem lacksText_long : (Value.int (10 ^ Number.digitLimit : Nat)).LacksText :=
  (lacksText_of_toText (toText_int_of_le (Nat.le_of_eq (Int.natAbs_natCast _).symm))).2

theorem catalog_tables_states_typed :
    (typedSnapshot.HasTables "D" typedTables ∧ AreTold typedTables ∧
      (typedSnapshot.catalog.tables [] "D").map Table.ofRows =
        .ok [⟨"1", [⟨"False", "System.Int32"⟩, ⟨"when", "[None]"⟩]⟩, ⟨"Empty", []⟩, ⟨"Bare", []⟩, ⟨"Off", []⟩]) ∧
    typedSnapshot.HasTables "L" longTables ∧ AreTold longTables ∧
      (typedSnapshot.catalog.tables [] "L").map Table.ofRows = .error (.data .numberTooLong) := by
  have htyped : typedSnapshot.HasTables "D" typedTables := ⟨_, rfl, .present rfl⟩
  have hlong : typedSnapshot.HasTables "L" longTables := ⟨_, rfl, .present rfl⟩
  refine ⟨⟨htyped, areTold_typedTables, ?_⟩, hlong, areTold_longTables, ?_⟩
  · refine ((catalog_tables_states htyped areTold_typedTables []).ok_iff _).2 ?_
    refine .cons ⟨by decide +kernel, _, .present rfl, ?_⟩ (.cons ⟨rfl, _, .absent rfl, .nil⟩
      (.cons ⟨rfl, _, .present rfl, .nil⟩ (.cons ⟨rfl, _, .absent rfl, .nil⟩ .nil)))
    exact .cons ⟨by decide +kernel, rfl⟩ (.cons ⟨rfl, by decide +kernel⟩ .nil)
  · have hread := catalog_tables_states hlong areTold_longTables []
    cases hx : (typedSnapshot.catalog.tables [] "L").map Table.ofRows with
    | error f => rw [(hread.error f hx).1]
    | ok tables =>
      obtain ⟨table, htable⟩ := hread.exists_iff.1 ⟨tables, hx⟩ _ List.mem_cons_self
      exact absurd htable (LacksType.not_statesTable
        ⟨_, .present rfl, _, List.mem_cons_self, lacksText_long⟩)

/-! ## Functions -/

/-- The entries of a function: a text for its name, and a mapping for its columns if any. -/
structure Describes (es : List (Value × Value)) (f : ListedFunction) : Prop where
  name : lookup es "name" = f.name
  named : ∃ name, f.name.text? = some name
  parameters : lookup es "parameters" = f.parameters
  columns : HasEntries (lookup es "columns") f.columns

/-- An item of a list states a function if it has entries for it. -/
def StatesFunction (v : Value) (f : ListedFunction) : Prop := ∃ es, v.entries? = some es ∧ Describes es f

/-- What a snapshot has for the functions of a database. -/
def HasFunctions (s : Snapshot) (database : String) (fs : List ListedFunction) : Prop :=
  ∃ db vs, (lookup s.databases database).entries? = some db ∧ HasItems (lookup db "functions") vs ∧
    List.Forall₂ StatesFunction vs fs

variable {f : ListedFunction} {fs : List ListedFunction} {index : Nat} {e : Failure}

/-- A failure of a snapshot names the database and no query. -/
def IsRefusal (database : String) (e : Failure) : Prop := ∃ fault, e = .transport fault (some database) none

theorem isRefusal_of_database (h : s.database database = .error e) : IsRefusal database e := by
  rw [Snapshot.database] at h
  split at h
  · cases h
  · cases h
    exact ⟨_, rfl⟩

theorem function_eq_ok_iff : function database index v = .ok f ↔ StatesFunction v f := by
  constructor
  · intro h
    rw [function] at h
    split at h
    · cases h
    · next es hv =>
      dsimp only at h
      split at h
      · cases h
      · next name hname =>
        split at h
        · next columns hcolumns =>
          cases h
          exact ⟨es, hv, rfl, ⟨name, hname⟩, rfl, entries?_eq_some_iff.1 hcolumns⟩
        · cases h
  · rintro ⟨es, hv, hname, ⟨name, hnamed⟩, hparameters, hcolumns⟩
    simp only [function, hv, hname, hnamed, hparameters, entries?_eq_some_iff.2 hcolumns]

theorem isRefusal_of_function (h : function database index v = .error e) : IsRefusal database e := by
  rw [function] at h
  split at h
  · cases h
    exact ⟨_, rfl⟩
  · dsimp only at h
    split at h
    · cases h
      exact ⟨_, rfl⟩
    · split at h
      · cases h
      · cases h
        exact ⟨_, rfl⟩

theorem functionsFrom_eq_ok_iff : functionsFrom database index vs = .ok fs ↔ List.Forall₂ StatesFunction vs fs := by
  induction vs generalizing index fs with
  | nil => simp [functionsFrom, eq_comm]
  | cons v vs ih =>
    rw [functionsFrom, together_eq_ok_iff, List.forall₂_cons_left_iff]
    simp only [function_eq_ok_iff, ih]
    constructor
    · rintro ⟨f, fs, hf, hfs, rfl⟩
      exact ⟨f, fs, hf, hfs, rfl⟩
    · rintro ⟨f, fs, hf, hfs, rfl⟩
      exact ⟨f, fs, hf, hfs, rfl⟩

theorem isRefusal_of_functionsFrom (h : functionsFrom database index vs = .error e) : IsRefusal database e := by
  induction vs generalizing index with
  | nil => cases h
  | cons v vs ih =>
    rcases together_eq_error h with h | h
    · exact isRefusal_of_function h
    · exact ih h

theorem functions_eq_ok_iff : s.functions database = .ok fs ↔ s.HasFunctions database fs := by
  simp only [functions, bind_eq_ok_iff, database_eq_ok_iff, HasFunctions]
  refine exists_congr fun db => ?_
  cases hvs : items? (lookup db "functions") with
  | none =>
    refine iff_of_false (fun h => nomatch h.2) ?_
    rintro ⟨vs, -, hitems, -⟩
    rw [items?_eq_some_iff.2 hitems] at hvs
    cases hvs
  | some vs =>
    simp only [functionsFrom_eq_ok_iff]
    constructor
    · rintro ⟨hdb, hall⟩
      exact ⟨vs, hdb, items?_eq_some_iff.1 hvs, hall⟩
    · rintro ⟨vs', hdb, hitems, hall⟩
      rw [items?_eq_some_iff.2 hitems] at hvs
      cases hvs
      exact ⟨hdb, hall⟩

theorem hasFunctions_unique {fs' : List ListedFunction} (h : s.HasFunctions database fs)
    (h' : s.HasFunctions database fs') : fs = fs' :=
  Except.ok.inj ((functions_eq_ok_iff.2 h).symm.trans (functions_eq_ok_iff.2 h'))

theorem isRefusal_of_functions (h : s.functions database = .error e) : IsRefusal database e := by
  rw [functions] at h
  cases hdb : s.database database with
  | error e' =>
    rw [hdb] at h
    cases h
    exact isRefusal_of_database hdb
  | ok db =>
    rw [hdb] at h
    simp only [Bind.bind, Except.bind] at h
    split at h
    · cases h
      exact ⟨_, rfl⟩
    · exact isRefusal_of_functionsFrom h

/-- A function is listed with the text of its parameters, or with two parentheses if it has none. -/
structure IsListing (f : ListedFunction) (l : FunctionListing) : Prop where
  name : f.name.toText = .ok l.name
  parameters : f.parameters.truthy = true ∧ f.parameters.toText = .ok l.parameters ∨
    f.parameters.truthy = false ∧ l.parameters = "()"

def parametersText (f : ListedFunction) : Except Failure String :=
  if f.parameters.truthy then f.parameters.toText else .ok "()"

theorem listing_eq (f : ListedFunction) :
    listing f = (do return (⟨← f.name.toText, ← parametersText f⟩ : FunctionListing)) := by
  rw [listing, parametersText]
  split <;> rfl

theorem listing_eq_ok_iff {l : FunctionListing} : listing f = .ok l ↔ IsListing f l := by
  rw [listing_eq, together_eq_ok_iff]
  constructor
  · rintro ⟨name, parameters, hname, hparameters, rfl⟩
    refine ⟨hname, ?_⟩
    rw [parametersText] at hparameters
    split at hparameters
    · next ht => exact .inl ⟨ht, hparameters⟩
    · next ht =>
      cases hparameters
      exact .inr ⟨Bool.eq_false_iff.2 ht, rfl⟩
  · rintro ⟨hname, hparameters⟩
    refine ⟨l.name, l.parameters, hname, ?_, rfl⟩
    rcases hparameters with ⟨ht, hparameters⟩ | ⟨ht, hparameters⟩
    · rw [parametersText, if_pos ht, hparameters]
    · rw [parametersText, if_neg (Bool.eq_false_iff.1 ht), hparameters]

theorem toText_name_of_states (h : StatesFunction v f) : ∃ name, f.name.toText = .ok name := by
  obtain ⟨_, _, _, ⟨name, hname⟩, _⟩ := h
  exact ⟨name, toText_of_text? hname⟩

/-- Only the parameters of a function can be in the way of the list. -/
theorem readOff_listings (h : s.HasFunctions database fs) :
    ReadOff IsListing (fun f => f.parameters.LacksText) fs (fs.mapM listing) := by
  obtain ⟨_, vs, -, -, hall⟩ := h
  refine .mapM (fun _ _ => listing_eq_ok_iff) fun f hf e he => ?_
  rw [listing_eq] at he
  rcases together_eq_error he with he | he
  · obtain ⟨v, -, hstates⟩ := (exists_of_forall₂ hall).2 f hf
    obtain ⟨name, hname⟩ := toText_name_of_states hstates
    rw [hname] at he
    cases he
  · rw [parametersText] at he
    split at he
    · exact lacksText_of_toText he
    · cases he

theorem find?_isNamed {name : String} {earlier later : List ListedFunction} (hname : f.name = .text name)
    (hearlier : ∀ g ∈ earlier, g.name ≠ .text name) :
    (earlier ++ f :: later).find? (·.name.isNamed name) = some f := by
  have hnone : earlier.find? (·.name.isNamed name) = none :=
    List.find?_eq_none.2 fun g hg hnamed => hearlier g hg (isNamed_iff.1 hnamed)
  rw [List.find?_append, hnone, Option.none_or]
  exact List.find?_cons_of_pos (isNamed_iff.2 hname)

/-- If a snapshot has functions for a database, they are listed, and a call of one of them has the columns that
the first one of its name has, whatever the arguments. Only names of none of them are unknown. A number that is
too long for a text is the one thing that can be in the way, of the list as well as of the columns. If the
snapshot has no functions for the database, both questions are refused alike. -/
theorem catalog_probes_listed (s : Snapshot) (database function : String) (arguments : List String)
    (before before' : List Call) :
    let listed := s.catalog.functions before database
    let probed := s.catalog.probe before' function arguments database
    (∃ fs, s.HasFunctions database fs ∧ ReadOff IsListing (fun f => f.parameters.LacksText) fs listed ∧
      (∀ earlier f later, fs = earlier ++ f :: later → f.name = .text function →
        (∀ g ∈ earlier, g.name ≠ .text function) →
          ReadOff StatesColumn (fun e => e.1.LacksText ∨ e.2.LacksText) f.columns probed) ∧
      ((∀ f ∈ fs, f.name ≠ .text function) →
        probed = .error (.transport (.unknownFunction function) (some database)
          (some (probeQuery function arguments))))) ∨
    (¬∃ fs, s.HasFunctions database fs) ∧
      ∃ fault, listed = .error (.transport fault (some database) none) ∧
        probed = .error (.transport fault (some database) none) := by
  intro listed probed
  cases hfs : s.functions database with
  | ok fs =>
    have hhas := functions_eq_ok_iff.1 hfs
    have hlisted : listed = fs.mapM listing := by
      simp only [listed, catalog, hfs]
      rfl
    refine .inl ⟨fs, hhas, hlisted ▸ readOff_listings hhas, fun earlier f later heq hname hearlier => ?_,
      fun hnone => ?_⟩
    · have hprobed : probed = columnsOf f.columns := by
        simp only [probed, catalog, probe, hfs, heq, find?_isNamed hname hearlier, Bind.bind, Except.bind]
      exact hprobed ▸ readOff_columnsOf f.columns
    · have hfind : fs.find? (·.name.isNamed function) = none :=
        List.find?_eq_none.2 fun f hf hnamed => hnone f hf (isNamed_iff.1 hnamed)
      simp only [probed, catalog, probe, hfs, hfind, Bind.bind, Except.bind]
  | error e =>
    obtain ⟨fault, rfl⟩ := isRefusal_of_functions hfs
    refine .inr ⟨?_, fault, ?_, ?_⟩
    · rintro ⟨fs, hhas⟩
      rw [functions_eq_ok_iff.2 hhas] at hfs
      cases hfs
    · simp only [listed, catalog, hfs, Bind.bind, Except.bind]
    · simp only [probed, catalog, probe, hfs, Bind.bind, Except.bind]

/-- Two functions have the same name. -/
def typedFunctions : List ListedFunction :=
  [⟨.text "F", .null, [(.int 1, .null)]⟩, ⟨.text "F", .int 5, []⟩, ⟨.text "G", .null, longColumns⟩]

theorem typedSnapshot_hasFunctions : typedSnapshot.HasFunctions "D" typedFunctions := by
  refine ⟨_, _, rfl, .present rfl, .cons ?_ (.cons ?_ (.cons ?_ .nil))⟩
  · exact ⟨_, rfl, rfl, ⟨_, rfl⟩, rfl, .present rfl⟩
  · exact ⟨_, rfl, rfl, ⟨_, rfl⟩, rfl, .absent rfl⟩
  · exact ⟨_, rfl, rfl, ⟨_, rfl⟩, rfl, .present rfl⟩

theorem not_hasFunctions_long : ¬∃ fs, typedSnapshot.HasFunctions "L" fs := by
  rintro ⟨fs, hfs⟩
  have herror : typedSnapshot.functions "L" = .error (.transport (.functionShape 0) (some "L") none) := rfl
  rw [functions_eq_ok_iff.2 hfs] at herror
  cases herror

theorem catalog_probes_listed_typed :
    let c := typedSnapshot.catalog
    c.functions [] "D" = .ok [⟨"F", "()"⟩, ⟨"F", "5"⟩, ⟨"G", "()"⟩] ∧
    c.probe [] "F" ["0"] "D" = .ok [⟨"1", "None"⟩] ∧
    (∀ columns, c.probe [] "G" [] "D" ≠ .ok columns) ∧
    ∃ fault, c.functions [] "L" = .error (.transport fault (some "L") none) ∧
      c.probe [] "F" [] "L" = .error (.transport fault (some "L") none) := by
  intro c
  have htyped : ∀ {fs}, typedSnapshot.HasFunctions "D" fs → fs = typedFunctions :=
    fun h => hasFunctions_unique h typedSnapshot_hasFunctions
  refine ⟨?_, ?_, fun columns => ?_, ?_⟩
  · obtain ⟨fs, hfs, hlisted, -⟩ | ⟨hnone, -⟩ := catalog_probes_listed typedSnapshot "D" "F" [] [] []
    · refine (hlisted.ok_iff _).2 ?_
      rw [htyped hfs]
      exact .cons ⟨rfl, .inr ⟨rfl, rfl⟩⟩ (.cons ⟨rfl, .inl ⟨rfl, by decide +kernel⟩⟩
        (.cons ⟨rfl, .inr ⟨rfl, rfl⟩⟩ .nil))
    · exact absurd ⟨_, typedSnapshot_hasFunctions⟩ hnone
  · obtain ⟨fs, hfs, -, hprobed, -⟩ | ⟨hnone, -⟩ := catalog_probes_listed typedSnapshot "D" "F" ["0"] [] []
    · refine ((hprobed [] _ _ (htyped hfs) rfl nofun).ok_iff _).2 ?_
      exact .cons ⟨by decide +kernel, rfl⟩ .nil
    · exact absurd ⟨_, typedSnapshot_hasFunctions⟩ hnone
  · obtain ⟨fs, hfs, -, hprobed, -⟩ | ⟨hnone, -⟩ := catalog_probes_listed typedSnapshot "D" "G" [] [] []
    · have hread := hprobed [_, _] _ [] (htyped hfs) rfl (by simp)
      intro hcolumns
      obtain ⟨c, hc⟩ := hread.exists_iff.1 ⟨columns, hcolumns⟩ _ List.mem_cons_self
      exact lacksText_long.ne_ok _ hc.type
    · exact absurd ⟨_, typedSnapshot_hasFunctions⟩ hnone
  · exact ((catalog_probes_listed typedSnapshot "L" "F" [] [] []).resolve_left
      fun ⟨fs, hfs, _⟩ => not_hasFunctions_long ⟨fs, hfs⟩).2

end Snapshot
end EntityGen
