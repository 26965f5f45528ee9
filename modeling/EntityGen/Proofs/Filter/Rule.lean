import Mathlib.Data.List.Basic
import EntityGen.Config.Basic

/-! What rules keep. A rule that includes a name wins, whatever the other rules say and wherever they stand, so
only the set of the rules counts. -/

namespace EntityGen

variable {α : Type} {key : α → String} {items : List α} {rules rules' : List Rule} {r : Rule} {name : String}

/-- The polarity of the rules decides: an inclusion keeps a name, and so does the lack of an exclusion. -/
theorem keeps_iff_accepts : keeps rules name ↔
    (∃ r ∈ rules, r.exclude = false ∧ r.accepts name) ∨ ¬∃ r ∈ rules, r.exclude = true ∧ r.accepts name := by
  simp [keeps, Rule.includes, Rule.excludes]

/-! ## The order of rules -/

theorem keeps_congr (h : ∀ r, r ∈ rules ↔ r ∈ rules') : keeps rules = keeps rules' := by
  funext name
  rw [Bool.eq_iff_iff, keeps_iff_accepts, keeps_iff_accepts]
  simp only [h]

theorem keeps_perm (h : rules.Perm rules') : keeps rules = keeps rules' :=
  keeps_congr fun _ => h.mem_iff

/-- The lists that rules are collected from may be put together in any order. -/
theorem keeps_flatten {lists lists' : List (List Rule)} (h : lists.Perm lists') :
    keeps lists.flatten = keeps lists'.flatten :=
  keeps_perm h.flatten

theorem rulesForTables_eq (c : Config) (d : Database) : c.rulesForTables d =
    [c.filters.tables, c.filters.all, d.filters.all, d.filters.tables].flatten := by
  simp [Config.rulesForTables]

theorem rulesForFunctions_eq (c : Config) (d : Database) : c.rulesForFunctions d =
    [c.filters.functions, c.filters.all, d.filters.all, d.filters.functions].flatten := by
  simp [Config.rulesForFunctions]

/-! ## One more rule -/

theorem keeps_cons_including (h : r.exclude = false) :
    keeps (r :: rules) name = (r.accepts name || keeps rules name) := by
  simp [keeps, Rule.includes, Rule.excludes, h, Bool.or_assoc]

/-- Where a new rule excludes a name, it stays only if another rule includes it. -/
theorem keeps_cons_excluding (h : r.exclude = true) : keeps (r :: rules) name =
    (keeps rules name && (!r.accepts name || rules.any (·.includes name))) := by
  have hincludes : r.includes name = false := by simp [Rule.includes, h]
  have hexcludes : r.excludes name = r.accepts name := by simp [Rule.excludes, h]
  rw [keeps, keeps, List.any_cons, List.any_cons, hincludes, hexcludes]
  cases rules.any (·.includes name) <;> cases r.accepts name <;> simp

theorem keeps_insertIdx (rules : List Rule) (r : Rule) {i : Nat} (hi : i ≤ rules.length) :
    keeps (rules.insertIdx i r) = keeps (r :: rules) :=
  keeps_perm (List.perm_insertIdx r rules hi)

theorem keeps_insertIdx_including (h : r.exclude = false) (i : Nat) (hk : keeps rules name) :
    keeps (rules.insertIdx i r) name := by
  by_cases hi : i ≤ rules.length
  · rw [keeps_insertIdx rules r hi, keeps_cons_including h, hk, Bool.or_true]
  · rwa [List.insertIdx_of_length_lt (Nat.lt_of_not_le hi)]

theorem keeps_of_insertIdx_excluding (h : r.exclude = true) (i : Nat) (hk : keeps (rules.insertIdx i r) name) :
    keeps rules name := by
  by_cases hi : i ≤ rules.length
  · rw [keeps_insertIdx rules r hi, keeps_cons_excluding h, Bool.and_eq_true] at hk
    exact hk.1
  · rwa [List.insertIdx_of_length_lt (Nat.lt_of_not_le hi)] at hk

/-! ## Items -/

theorem filterBy_eq (rules : List Rule) (key : α → String) (items : List α) :
    filterBy rules key items = items.filter (keeps rules ∘ key) := rfl

theorem filterBy_congr (h : keeps rules = keeps rules') : filterBy rules key items = filterBy rules' key items := by
  rw [filterBy_eq, filterBy_eq, h]

theorem filterBy_sublist (h : ∀ name, keeps rules name → keeps rules' name) :
    (filterBy rules key items).Sublist (filterBy rules' key items) :=
  List.monotone_filter_right items fun item => h (key item)

theorem filterBy_filterBy : filterBy rules key (filterBy rules key items) = filterBy rules key items := by
  simp only [filterBy_eq, List.filter_filter, Bool.and_self]

/-- The laws of choosing by rules. Which items are kept depends on the rules as a set, and so on none of the
ways in which the lists of a configuration and of a database may be put together. A rule more that includes
keeps all that was kept, and a rule more that excludes keeps nothing that was dropped. What is kept stays in
order, and choosing twice is choosing once. -/
theorem filterBy_laws (rules : List Rule) (key : α → String) (items : List α) :
    (∀ name, keeps rules name ↔
      (∃ r ∈ rules, r.exclude = false ∧ r.accepts name) ∨ ¬∃ r ∈ rules, r.exclude = true ∧ r.accepts name) ∧
    (∀ rules', (∀ r, r ∈ rules ↔ r ∈ rules') →
      keeps rules = keeps rules' ∧ filterBy rules key items = filterBy rules' key items) ∧
    (∀ (c : Config) (d : Database) (lists : List (List Rule)),
      (lists.Perm [c.filters.tables, c.filters.all, d.filters.all, d.filters.tables] →
        keeps lists.flatten = keeps (c.rulesForTables d) ∧
          filterBy lists.flatten key items = filterBy (c.rulesForTables d) key items) ∧
      (lists.Perm [c.filters.functions, c.filters.all, d.filters.all, d.filters.functions] →
        keeps lists.flatten = keeps (c.rulesForFunctions d) ∧
          filterBy lists.flatten key items = filterBy (c.rulesForFunctions d) key items)) ∧
    (∀ r i, r.exclude = false →
      (filterBy rules key items).Sublist (filterBy (rules.insertIdx i r) key items)) ∧
    (∀ r i, r.exclude = true →
      (filterBy (rules.insertIdx i r) key items).Sublist (filterBy rules key items)) ∧
    (filterBy rules key items).Sublist items ∧
    filterBy rules key (filterBy rules key items) = filterBy rules key items := by
  refine ⟨fun name => keeps_iff_accepts, ?_, ?_, ?_, ?_, List.filter_sublist, filterBy_filterBy⟩
  · intro rules' h
    exact ⟨keeps_congr h, filterBy_congr (keeps_congr h)⟩
  · intro c d lists
    rw [rulesForTables_eq, rulesForFunctions_eq]
    exact ⟨fun h => ⟨keeps_flatten h, filterBy_congr (keeps_flatten h)⟩,
      fun h => ⟨keeps_flatten h, filterBy_congr (keeps_flatten h)⟩⟩
  · intro r i h
    exact filterBy_sublist fun name => keeps_insertIdx_including h i
  · intro r i h
    exact filterBy_sublist fun name => keeps_of_insertIdx_excluding h i

theorem filterBy_laws_temporary :
    let drop : Rule := ⟨.starts "Tmp", true⟩
    let keep : Rule := ⟨.exact "TmpA", false⟩
    let more : Rule := ⟨.glob "*B", false⟩
    let less : Rule := ⟨.ends "g", true⟩
    let c : Config := { filters := { tables := [drop], functions := [less] } }
    let d : Database := { name := "D", filters := { all := [keep] } }
    let items := ["TmpA", "Log", "TmpB"]
    filterBy [drop, keep] id items = ["TmpA", "Log"] ∧
      filterBy [drop, keep] id items = filterBy [keep, drop, keep] id items ∧
      filterBy [[keep], [], [drop], []].flatten id items = filterBy (c.rulesForTables d) id items ∧
      filterBy [[], [keep], [], [less]].flatten id items = filterBy (c.rulesForFunctions d) id items ∧
      (filterBy [drop, keep] id items).Sublist (filterBy [drop, more, keep] id items) ∧
      (filterBy [drop, keep, less] id items).Sublist (filterBy [drop, keep] id items) := by
  intro drop keep more less c d items
  obtain ⟨_, hset, hlists, hmore, hless, _⟩ := filterBy_laws [drop, keep] id items
  have hsame : ∀ r, r ∈ [drop, keep] ↔ r ∈ [keep, drop, keep] := by
    intro r
    simp [or_comm]
  have htables : [[keep], [], [drop], []].Perm
      [c.filters.tables, c.filters.all, d.filters.all, d.filters.tables] := by decide +kernel
  have hfunctions : [[], [keep], [], [less]].Perm
      [c.filters.functions, c.filters.all, d.filters.all, d.filters.functions] := by decide +kernel
  exact ⟨by decide +kernel, (hset _ hsame).2, ((hlists c d _).1 htables).2, ((hlists c d _).2 hfunctions).2,
    hmore more 1 rfl, hless less 2 rfl⟩

end EntityGen
