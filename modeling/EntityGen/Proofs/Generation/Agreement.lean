import EntityGen.Proofs.Generation.Order

/-! Runs with catalogs that differ only in what the rules drop. -/

namespace EntityGen

namespace Run

variable {α β γ : Type} {A : List Call → Call → Prop} {x x' : Run α} {j : Journal}

/-- The calls that a run makes, each with those before it. -/
def Asks (x : Run α) (j : Journal) (before : List Call) (q : Call) : Prop :=
  j.calls <:+ before ∧ q :: before <:+ (outcome x j).2.calls

/-- Two runs come to the same if `A` holds of every call that the first one makes. -/
def Matches (A : List Call → Call → Prop) (x x' : Run α) : Prop :=
  ∀ j, j.calls <:+ (outcome x j).2.calls ∧
    ((∀ before q, Asks x j before q → A before q) → outcome x' j = outcome x j)

namespace Matches

theorem refl (h : ∀ j, (outcome x j).2.calls = j.calls) : Matches A x x := by
  intro j
  rw [h]
  exact ⟨List.suffix_rfl, fun _ => rfl⟩

theorem bind {f f' : α → Run β} (hx : Matches A x x') (hf : ∀ a, Matches A (f a) (f' a)) :
    Matches A (x >>= f) (x' >>= f') := by
  intro j
  obtain ⟨hcalls, hx⟩ := hx j
  have hb := outcome_bind x f j
  rcases hj : outcome x j with ⟨g | a, j₁⟩
  · rw [hj] at hb hcalls hx
    dsimp only at hb
    rw [hb]
    refine ⟨hcalls, fun hA => ?_⟩
    rw [outcome_bind, hx]
    intro before q ⟨hbefore, hq⟩
    rw [hj] at hq
    exact hA before q ⟨hbefore, by rwa [hb]⟩
  · obtain ⟨hcalls', hf⟩ := hf a j₁
    rw [hj] at hb hcalls hx
    dsimp only at hb
    rw [hb]
    refine ⟨hcalls.trans hcalls', fun hA => ?_⟩
    rw [outcome_bind, hx]
    -- What either part asks is asked by the whole.
    · refine hf fun before q ⟨hbefore, hq⟩ => hA before q ⟨hcalls.trans hbefore, ?_⟩
      rwa [hb]
    · intro before q ⟨hbefore, hq⟩
      rw [hj] at hq
      refine hA before q ⟨hbefore, ?_⟩
      rw [hb]
      exact hq.trans hcalls'

theorem mapM {f f' : α → Run β} {as : List α} (hf : ∀ a ∈ as, Matches A (f a) (f' a)) :
    Matches A (as.mapM f) (as.mapM f') := by
  induction as with
  | nil => exact refl fun _ => rfl
  | cons a as ih =>
    obtain ⟨ha, has⟩ := List.forall_mem_cons.1 hf
    rw [List.mapM_cons, List.mapM_cons]
    refine ha.bind fun b => (ih has).bind fun bs => ?_
    exact refl fun _ => rfl

theorem ofCall {q : Call} {answer answer' : List Call → Except Failure α}
    (h : ∀ before, A before q → answer' before = answer before) :
    Matches A (call q answer) (call q answer') := by
  intro j
  have hcalls : (outcome (call q answer) j).2.calls = q :: j.calls := by
    rw [outcome_call]
    exact calls_append _ j.disk _ _
  rw [hcalls]
  refine ⟨List.suffix_cons q j.calls, fun hA => ?_⟩
  have hq : A j.calls q := hA j.calls q ⟨List.suffix_rfl, hcalls ▸ List.suffix_rfl⟩
  rw [outcome_call, outcome_call, h j.calls hq]

/-- Of an answer only what is made of it needs to agree. -/
theorem ofCall_bind {q : Call} {answer answer' : List Call → Except Failure α} (g : α → β) (f : β → Run γ)
    (h : ∀ before, A before q → (answer' before).map g = (answer before).map g)
    (hf : ∀ b, Matches A (f b) (f b)) :
    Matches A (call q answer >>= fun a => f (g a)) (call q answer' >>= fun a => f (g a)) := by
  have hb : ∀ answer : List Call → Except Failure α, (call q answer >>= fun a => f (g a)) =
      call q (fun before => (answer before).map g) >>= f := by
    intro answer
    simp only [call, bind_assoc]
    congr 1
    funext j
    cases answer j.calls <;> rfl
  rw [hb, hb]
  exact (ofCall h).bind hf

end Matches
end Run

namespace Generation

open Run

variable {s : Setting} {c r : Config} {k k' : Catalog} {d : Database} {folder : Path} {j : Journal}

/-- Two catalogs answer a call alike but for what the rules of the configuration drop. -/
def Alike (c : Config) (k k' : Catalog) (before : List Call) : Call → Prop
  | .tables name => ∀ d ∈ c.databases, d.name = name →
      (k'.tables before name).map (filterBy (c.rulesForTables d) TableRow.table) =
        (k.tables before name).map (filterBy (c.rulesForTables d) TableRow.table)
  | .functions name => ∀ d ∈ c.databases, d.name = name →
      (k'.functions before name).map (filterBy (c.rulesForFunctions d) FunctionListing.name) =
        (k.functions before name).map (filterBy (c.rulesForFunctions d) FunctionListing.name)
  | .probe function arguments name =>
      k'.probe before function arguments name = k.probe before function arguments name

theorem alike_of_completes (h : c.Completes r) (before : List Call) (q : Call) :
    Alike c k k' before q ↔ Alike r k k' before q := by
  cases q <;> simp only [Alike, h.databases, h.filters, Config.rulesForTables, Config.rulesForFunctions]

/-! Each part of a run comes to the same. -/

theorem matches_prepare : Matches (Alike c k k') (prepare c folder) (prepare c folder) := by
  refine .refl fun j => ?_
  rw [Journal.calls, prepare_silent j rfl]
  rfl

theorem matches_writeText (p : Path) (text : String) :
    Matches (Alike c k k') (writeText p text) (writeText p text) := by
  refine .refl fun j => ?_
  rw [outcome_writeText]
  split
  · exact calls_append _ j.disk _ _
  · rfl

theorem matches_note {e : Event} (he : e.call? = none) : Matches (Alike c k k') (note e) (note e) :=
  .refl fun j => by simp [outcome_note, Journal.calls, he]

theorem matches_tablesOf (hd : d ∈ c.databases) :
    Matches (Alike c s.catalog k) (tablesOf s c d) (tablesOf { s with catalog := k } c d) := by
  refine .ofCall_bind (filterBy (c.rulesForTables d) TableRow.table) (fun rows => pure (Table.ofRows rows))
    (fun before h => ?_) fun rows => .refl fun _ => rfl
  exact h d hd rfl

theorem matches_functionsOf (hd : d ∈ c.databases) :
    Matches (Alike c s.catalog k) (functionsOf s c d) (functionsOf { s with catalog := k } c d) := by
  rw [functionsOf_eq, functionsOf_eq]
  refine .ofCall_bind (filterBy (c.rulesForFunctions d) FunctionListing.name)
    (fun ls => MonadExcept.ofExcept (ls.mapM (parseFunction d.name))) (fun before h => ?_)
    fun ls => .refl fun j => ?_
  · exact h d hd rfl
  · rw [outcome_ofExcept]

theorem matches_probe (f : Callable) :
    Matches (Alike c s.catalog k) (probe s d f) (probe { s with catalog := k } d f) := by
  rw [probe_eq, probe_eq]
  refine (Matches.refl fun j => ?_).bind fun arguments => .ofCall fun _ h => h
  rw [outcome_ofExcept]

theorem matches_addModel (name : String) (columns : List Column) :
    Matches (Alike c s.catalog k) (addModel s c folder name columns)
      (addModel { s with catalog := k } c folder name columns) := by
  refine (matches_writeText _ _).bind fun _ => ?_
  exact .refl fun _ => rfl

theorem matches_generateTable (t : Table) :
    Matches (Alike c s.catalog k) (generateTable s c folder t)
      (generateTable { s with catalog := k } c folder t) := by
  refine (matches_note rfl).bind fun _ => ?_
  refine (matches_addModel _ _).bind fun _ => ?_
  refine (matches_note rfl).bind fun _ => ?_
  exact .refl fun _ => rfl

theorem matches_generateFunction (f : Callable) :
    Matches (Alike c s.catalog k) (generateFunction s c d folder f)
      (generateFunction { s with catalog := k } c d folder f) := by
  refine (matches_note rfl).bind fun _ => ?_
  refine (matches_probe f).bind fun columns => ?_
  refine (matches_addModel _ _).bind fun _ => ?_
  refine (matches_note rfl).bind fun _ => ?_
  exact .refl fun _ => rfl

theorem matches_folderFor : Matches (Alike c k k') (folderFor c d) (folderFor c d) := by
  refine .refl fun j => ?_
  rw [folderFor]
  cases c.folderOf d <;> rfl

theorem matches_generateDatabase (hd : d ∈ c.databases) :
    Matches (Alike c s.catalog k) (generateDatabase s c d)
      (generateDatabase { s with catalog := k } c d) := by
  refine (matches_note rfl).bind fun _ => ?_
  refine (matches_note rfl).bind fun _ => ?_
  refine (matches_tablesOf hd).bind fun tables => ?_
  refine matches_folderFor.bind fun folder => ?_
  refine (Matches.mapM fun t _ => matches_generateTable t).bind fun first => ?_
  refine (matches_note rfl).bind fun _ => ?_
  refine (matches_functionsOf hd).bind fun functions => ?_
  refine (Matches.mapM fun f _ => matches_generateFunction f).bind fun second => ?_
  exact .refl fun _ => rfl

theorem matches_addContext (as : List Artifact) :
    Matches (Alike c k k') (addContext c as) (addContext c as) := by
  rw [addContext]
  cases c.createContext with
  | false => exact .refl fun _ => rfl
  | true =>
    cases c.contextFile with
    | none => exact .refl fun _ => rfl
    | some file =>
      refine (matches_note rfl).bind fun _ => ?_
      refine (matches_writeText _ _).bind fun _ => ?_
      exact .refl fun _ => rfl

theorem matches_runCompleted :
    Matches (Alike c s.catalog k) (runCompleted s c folder)
      (runCompleted { s with catalog := k } c folder) := by
  refine matches_prepare.bind fun _ => ?_
  refine (matches_note rfl).bind fun _ => ?_
  refine (Matches.mapM fun d hd => matches_generateDatabase hd).bind fun written => ?_
  refine (matches_addContext _).bind fun _ => ?_
  exact .refl fun _ => rfl

/-- What the rules drop has no influence: with catalogs that answer every call alike but for that, two runs
come to the same result or the same failure, with the same events and the same disk. -/
theorem run_ignores_dropped
    (h : ∀ before q, Asks (run s c) j before q → Alike c s.catalog k before q) :
    outcome (run { s with catalog := k } c) j = outcome (run s c) j := by
  cases hr : c.complete with
  | error f =>
    rw [outcome_run_of_incomplete hr, outcome_run_of_incomplete hr]
  | ok r =>
    have hc := Config.completes_of_complete hr
    obtain ⟨folder, hm⟩ := Option.isSome_iff_exists.1 hc.modelsFolder_isSome
    have hrun := fun s : Setting => outcome_run_of_complete (s := s) hr hm j
    rw [hrun, hrun]
    refine (matches_runCompleted j).2 fun before q hq => ?_
    rw [← alike_of_completes hc]
    refine h before q ?_
    rwa [Asks, hrun]

/-- Tables and functions of one name are dropped. -/
def dropping : Config where
  modelsFolder := some ⟨0, ["m"]⟩
  contextFile := some ⟨0, ["c.cs"]⟩
  «namespace» := some "N"
  filters := { all := [⟨.exact "Old", true⟩] }
  databases := [⟨"D", none, {}⟩]

/-- What is dropped stands between the rest, and there is a signature that cannot be read. -/
def litteredSetting : Setting where
  catalog := {
    tables := fun _ _ => .ok [⟨"Old", "x", ""⟩, ⟨"Book", "id", "System.Int32"⟩, ⟨"Old", "y", ""⟩,
      ⟨"Book", "title", "System.String"⟩]
    functions := fun _ _ => .ok [⟨"Old", "(a:b:c)"⟩, ⟨"Late", "(days:int)"⟩]
    probe := fun _ _ _ _ => .ok [⟨"reader", "System.Guid"⟩] }
  types := {}
  now := .first

def tidyCatalog : Catalog where
  tables := fun _ _ => .ok [⟨"Book", "id", "System.Int32"⟩, ⟨"Book", "title", "System.String"⟩,
    ⟨"Old", "z", "System.Guid"⟩]
  functions := fun _ _ => .ok [⟨"Late", "(days:int)"⟩]
  probe := fun _ _ _ _ => .ok [⟨"reader", "System.Guid"⟩]

theorem alike_tidyCatalog (before : List Call) (q : Call) :
    Alike dropping litteredSetting.catalog tidyCatalog before q := by
  cases q with
  | tables name | functions name =>
    intro d hd _
    rw [List.mem_singleton.1 hd]
    rfl
  | probe function arguments name => rfl

theorem run_ignores_dropped_littered :
    (∀ before q, Asks (run litteredSetting dropping) ⟨Disk.fresh ["w"], []⟩ before q →
      Alike dropping litteredSetting.catalog tidyCatalog before q) ∧
    outcome (run { litteredSetting with catalog := tidyCatalog } dropping) ⟨Disk.fresh ["w"], []⟩ =
      outcome (run litteredSetting dropping) ⟨Disk.fresh ["w"], []⟩ :=
  ⟨fun before q _ => alike_tidyCatalog before q,
    run_ignores_dropped fun before q _ => alike_tidyCatalog before q⟩

end Generation
end EntityGen
