import Mathlib
import EntityGen.Proofs.Generation.Order
import EntityGen.Proofs.Generation.Prepared

/-! What a run leaves that fails after it has prepared. -/

namespace EntityGen.Generation

open Disk Run

def Step.model? : Step → Option Entity
  | .model e => some e
  | _ => none

/-- The operations between preparing and the text of the context. -/
def Step.isInner : Step → Bool
  | .prepare _ | .context _ _ => false
  | _ => true

def models (ts : List Step) : List Entity := ts.filterMap Step.model?

variable {s : Setting} {c : Config} {folder : Path} {d d' : Disk} {j j' : Journal} {f : Failure} {t : Step}
  {ts done rest : List Step} {e : Entity} {bytes : Nat} {rs : List Report} {l : Place}

theorem eq_model_of_model? (h : t.model? = some e) : t = .model e := by
  cases t <;> cases h
  rfl

theorem mem_models : e ∈ models ts ↔ Step.model e ∈ ts := by
  rw [models, List.mem_filterMap]
  constructor
  · rintro ⟨t, ht, he⟩
    exact eq_model_of_model? he ▸ ht
  · exact fun h => ⟨_, h, rfl⟩

/-! What single operations do to the disk. -/

theorem disk_of_quiet {a : Except Failure Step} (hi : t.isInner) (hm : t.model? = none)
    (h : outcome (t.perform s c folder) j = (a, j')) : j'.disk = j.disk := by
  have hq : (outcome (t.perform s c folder) j).2.disk = j.disk := by
    cases t with
    | prepare n | context file as => cases hi
    | model e => cases hm
    | tell e => rfl
    | tables d rows | functions d listings | probe d p =>
      rw [Step.perform, outcome_map, outcome_call]
    | parse d ls callables | literals p arguments =>
      rw [Step.perform, outcome_map, outcome_ofExcept]
  rwa [h] at hq

theorem save_of_write {o : Output} {u : Step}
    (h : outcome ((fun _ => t) <$> writeText o.path o.text) j = (.ok u, j')) :
    outcome o.save j.disk = (.ok (), j'.disk) := by
  rw [outcome_map_writeText] at h
  rcases hs : outcome o.save j.disk with ⟨_ | _, d'⟩
  · rw [hs] at h
    cases h
  · rw [hs] at h
    cases h
    rfl

theorem save_of_failed_write {o : Output}
    (h : outcome ((fun _ => t) <$> writeText o.path o.text) j = (.error f, j')) :
    ∃ u, outcome o.save j.disk = (.error u, j'.disk) := by
  rw [outcome_map_writeText] at h
  rcases hs : outcome o.save j.disk with ⟨u | _, d'⟩
  · rw [hs] at h
    cases h
    exact ⟨u, rfl⟩
  · rw [hs] at h
    cases h

/-- Operations that succeed leave what saving their models leaves. -/
theorem save_of_performed (h : Performed (Step.perform s c folder) ts j j') (hi : ∀ t ∈ ts, t.isInner) :
    outcome (((models ts).map (Entity.output s c)).forM Output.save) j.disk = (.ok (), j'.disk) := by
  induction h with
  | nil => rfl
  | @cons t j j₁ ts j₂ ht _ ih =>
    obtain ⟨hti, his⟩ := List.forall_mem_cons.1 hi
    -- An operation that writes no model leaves the disk alone.
    cases hm : t.model? with
    | none =>
      rw [models, List.filterMap_cons_none hm, ← models, ← disk_of_quiet hti hm ht]
      exact ih his
    | some e =>
      obtain rfl := eq_model_of_model? hm
      rw [models, List.filterMap_cons_some hm, ← models, List.map_cons, outcome_forM_cons_eq_ok_iff]
      exact ⟨j₁.disk, save_of_write (o := e.output s c) ht, ih his⟩

/-! The order of a run again: first it prepares, and the text of the context comes last. -/

theorem all_isInner_databaseSteps (r : Report) : (databaseSteps s c r).all Step.isInner := by
  simp [databaseSteps, tableSteps, functionSteps, Step.isInner, List.all_flatMap]

/-- An operation that writes the text of the context. -/
def IsContext (c : Config) (t : Step) : Prop :=
  ∃ file artifacts, t = .context file artifacts ∧ c.contextFile = some file

theorem order_eq (s : Setting) (c : Config) (bytes : Nat) (rs : List Report) : ∃ inner last,
    order s c bytes rs = .prepare bytes :: (inner ++ last) ∧ inner.all Step.isInner ∧ last.length ≤ 1 ∧
      ∀ t ∈ last, IsContext c t := by
  have hd : (rs.flatMap (databaseSteps s c)).all Step.isInner := by
    simp [List.all_flatMap, all_isInner_databaseSteps]
  rcases contextOutput_eq_or c (artifacts s c rs) with ho | ⟨file, hfile, ho⟩
  · exact ⟨.tell (.prepared bytes) :: rs.flatMap (databaseSteps s c), [], by simp [order, contextSteps, ho], hd,
      Nat.zero_le 1, nofun⟩
  · refine ⟨.tell (.prepared bytes) :: rs.flatMap (databaseSteps s c) ++ [.tell (.context file)],
      [.context file (artifacts s c rs)], by simp [order, contextSteps, ho], ?_, Nat.le_refl 1, ?_⟩
    · simpa [Step.isInner] using hd
    · intro t ht
      exact ⟨file, artifacts s c rs, List.mem_singleton.1 ht, hfile⟩

theorem isInner_of_order (h : order s c bytes rs = .prepare bytes :: (done ++ t :: rest)) :
    (∀ u ∈ done, u.isInner) ∧ (t.isInner ∨ IsContext c t) := by
  obtain ⟨inner, last, ho, hi, hlen, hc⟩ := order_eq s c bytes rs
  rw [ho, List.cons_inj_right, List.append_eq_append_iff] at h
  rcases h with ⟨a, rfl, hl⟩ | ⟨a, rfl, hl⟩
  · -- All of `inner` is done, so nothing of `last` is.
    have ha : a = [] := by
      rw [hl, List.length_append, List.length_cons] at hlen
      exact List.eq_nil_of_length_eq_zero (by omega)
    subst ha
    rw [List.append_nil]
    exact ⟨List.all_eq_true.1 hi, .inr (hc t (by simp [hl]))⟩
  · rw [List.all_eq_true] at hi
    refine ⟨fun u hu => hi u (List.mem_append_left _ hu), ?_⟩
    cases a with
    | nil =>
      rw [List.nil_append] at hl
      exact .inr (hc t (hl ▸ List.mem_cons_self))
    | cons u a =>
      rw [List.cons_append, List.cons.injEq] at hl
      exact .inl (hi t (by simp [hl.1]))

/-- What fails after preparing has changed nothing, unless it is a text that could not be saved. -/
theorem disk_of_failed (hi : t.isInner ∨ IsContext c t)
    (ht : outcome (t.perform s c folder) j = (.error f, j')) : j'.disk = j.disk ∨
      ∃ (o : Output) (u : Trouble), outcome o.save j.disk = (.error u, j'.disk) ∧
        ((∃ e, t = .model e ∧ o.path = e.path) ∨ c.contextFile = some o.path) := by
  rcases hi with hi | ⟨file, as, rfl, hfile⟩
  · cases hm : t.model? with
    | none => exact .inl (disk_of_quiet hi hm ht)
    | some e =>
      obtain rfl := eq_model_of_model? hm
      obtain ⟨u, hu⟩ := save_of_failed_write (o := e.output s c) ht
      exact .inr ⟨e.output s c, u, hu, .inl ⟨e, rfl, rfl⟩⟩
  · obtain ⟨u, hu⟩ := save_of_failed_write (o := ⟨file, contextText c as⟩) ht
    exact .inr ⟨⟨file, contextText c as⟩, u, hu, .inr hfile⟩

theorem adds_of_failed (hd : j.disk.Sound) (hi : t.isInner ∨ IsContext c t)
    (ht : outcome (t.perform s c folder) j = (.error f, j')) : j.disk.Adds j'.disk := by
  rcases disk_of_failed hi ht with h | ⟨o, u, h, _⟩
  · rw [h]
    exact .refl hd
  · exact Output.save_error_adds hd h

/-- What is left of the context when a run has tried to write some models and failed. -/
structure ContextLeft (c : Config) (file : Path) (tried : List Entity) (d prepared d' : Disk) : Prop where
  old : c.clean = false → prepared.file? (d.placeOf file) = d.file? (d.placeOf file)
  gone : c.clean = true → (d.file? (d.placeOf file)).isSome → prepared.get? (d.placeOf file) = none
  kept : (∀ e ∈ tried, d.placeOf e.path ≠ d.placeOf file) →
    d'.file? (d.placeOf file) = prepared.file? (d.placeOf file)
  untouched : (∀ e ∈ tried, ¬ d.LeadsThrough e.path (d.placeOf file)) →
    d'.get? (d.placeOf file) = prepared.get? (d.placeOf file) ∨
      d.LeadsThrough file.parent (d.placeOf file) ∧ d.file? (d.placeOf file) = none ∧
        prepared.get? (d.placeOf file) = none ∧ d'.get? (d.placeOf file) = some .directory

section Left

variable {file : Path} {j₁ : Journal}

theorem kept_of_failed (hd : j.disk.Sound) (hl : j.disk.LinkFree) (hdone : ∀ u ∈ done, u.isInner)
    (ht : t.isInner ∨ IsContext c t) (hp : Performed (Step.perform s c folder) done j j₁)
    (hf : outcome (t.perform s c folder) j₁ = (.error f, j'))
    (hk : ∀ e ∈ models done, j.disk.placeOf e.path ≠ l) : j'.disk.file? l = j.disk.file? l := by
  have hs := save_of_performed hp hdone
  obtain ⟨hg, _, _⟩ := Output.forM_save hd hs
  rw [(adds_of_failed hg.sound ht hf).same, Output.file?_of_forM_save hd hs]
  intro o ho hloc
  obtain ⟨e, he, rfl⟩ := List.mem_map.1 ho
  have hplace := (hg.linkFree hl).locate_eq_placeOf hloc
  rw [placeOf_congr hg.home] at hplace
  exact hk e he hplace.symm

theorem spares_of_performed (hl : j.disk.LinkFree) (hdone : ∀ u ∈ done, u.isInner)
    (hp : Performed (Step.perform s c folder) done j j₁)
    (hk : ∀ e ∈ models done, ¬ j.disk.LeadsThrough e.path l) : j.disk.Spares l j₁.disk := by
  have hs := save_of_performed hp hdone
  have hspares : Preserves (j.disk.Spares l ·) (((models done).map (Entity.output s c)).forM Output.save) := by
    refine .forM fun o ho => ?_
    obtain ⟨e, he, rfl⟩ := List.mem_map.1 ho
    exact Output.save_spares (hk e he)
  have h := hspares j.disk (.refl hl)
  rwa [hs] at h

/-- Only the way to the folder of the context can make a directory where the context belongs. -/
theorem untouched_of_failed (hd : j₁.disk.Sound) (hl : j₁.disk.LinkFree) (hfile : c.contextFile = some file)
    (ht : t.isInner ∨ IsContext c t) (hf : outcome (t.perform s c folder) j₁ = (.error f, j'))
    (hk : ∀ e, t = .model e → ¬ j₁.disk.LeadsThrough e.path l) :
    j'.disk.get? l = j₁.disk.get? l ∨ j₁.disk.LeadsThrough file.parent l ∧
      j₁.disk.get? l = none ∧ j'.disk.get? l = some .directory := by
  rcases disk_of_failed ht hf with h | ⟨o, u, hs, hpath⟩
  · exact .inl (by rw [h])
  · -- A text that cannot be saved leaves directories at most, and these on the way to its own.
    by_cases hway : j₁.disk.LeadsThrough o.path.parent l
    · rcases hpath with ⟨e, rfl, he⟩ | hpath
      · exact absurd (he ▸ leadsThrough_of_parent hway) (hk e rfl)
      · rw [hfile, Option.some.injEq] at hpath
        subst hpath
        rcases (Output.save_error_adds hd hs).get?_eq_or hl l with h | h
        · exact .inl h
        · exact .inr ⟨hway, h⟩
    · exact .inl (Output.save_error_spares hl hs hway).same

/-- The models that were written before the failure hold what was written to their files last. -/
def ModelsKept (s : Setting) (c : Config) (done : List Step) (d : Disk) : Prop :=
  ∀ e ∈ models done, ∃ l last, d.locate true e.path = .ok l ∧
    Output.last? d l ((models done).map (Entity.output s c)) = some last ∧ d.read e.path = .ok last.text.toUTF8

theorem modelsKept_of_failed (hd : j.disk.Sound) (hdone : ∀ u ∈ done, u.isInner) (ht : t.isInner ∨ IsContext c t)
    (hp : Performed (Step.perform s c folder) done j j₁)
    (hf : outcome (t.perform s c folder) j₁ = (.error f, j')) : ModelsKept s c done j'.disk := by
  intro e he
  have hs := save_of_performed hp hdone
  have ha := adds_of_failed (Output.forM_save hd hs).1.sound ht hf
  have ho : e.output s c ∈ (models done).map (Entity.output s c) := List.mem_map_of_mem he
  obtain ⟨l, last, hl, hlast, hread⟩ := Output.read_of_forM_save_of_adds hd hs ha ho
  exact ⟨l, last, hl, hlast, hread⟩

theorem contextLeft_of_failed (hprepared : Prepares c d j.disk) (hfile : c.contextFile = some file)
    (hdone : ∀ u ∈ done, u.isInner) (ht : t.isInner ∨ IsContext c t)
    (hp : Performed (Step.perform s c folder) done j j₁)
    (hf : outcome (t.perform s c folder) j₁ = (.error f, j')) :
    ContextLeft c file (models (done ++ [t])) d j.disk j'.disk := by
  have hmodels : ∀ e ∈ models done, e ∈ models (done ++ [t]) := by
    intro e he
    rw [mem_models] at he ⊢
    exact List.mem_append_left _ he
  constructor
  case old => exact fun hclean => hprepared.kept hclean _
  case gone => exact fun hclean => hprepared.gone hclean file hfile
  case kept =>
    intro hk
    refine kept_of_failed hprepared.sound hprepared.linkFree hdone ht hp hf fun e he => ?_
    rw [placeOf_congr hprepared.home]
    exact hk e (hmodels e he)
  case untouched =>
    intro hk
    have hs : j.disk.Spares (d.placeOf file) j₁.disk := by
      refine spares_of_performed hprepared.linkFree hdone hp fun e he => ?_
      rw [leadsThrough_congr hprepared.home]
      exact hk e (hmodels e he)
    have hsound : j₁.disk.Sound := (Output.forM_save hprepared.sound (save_of_performed hp hdone)).1.sound
    have hhome : j₁.disk.home = d.home := hs.home.trans hprepared.home
    have ht' : ∀ e, t = .model e → ¬ j₁.disk.LeadsThrough e.path (d.placeOf file) := by
      rintro e rfl
      rw [leadsThrough_congr hhome]
      exact hk e (mem_models.2 (by simp))
    rcases untouched_of_failed hsound hs.linkFree hfile ht hf ht' with h | ⟨hway, hnone, hdir⟩
    · exact .inl (h.trans hs.same)
    · rw [leadsThrough_congr hhome] at hway
      exact .inr ⟨hway, (hprepared.way file _ hfile hway).1, hs.same ▸ hnone, hdir⟩

end Left

theorem fails_behind_prepare {α : Type} {a : α} {j₀ : Journal} {n : Nat}
    (he : Ends (Step.perform s c folder) a j₀ (.prepare n :: ts) (.error f, j'))
    (hp : outcome (prepare c folder) j₀ = (.ok bytes, j)) :
    n = bytes ∧ ∃ done t rest j₁, ts = done ++ t :: rest ∧
      Performed (Step.perform s c folder) done j j₁ ∧ outcome (t.perform s c folder) j₁ = (.error f, j') := by
  have hprepare : outcome (Step.perform s c folder (.prepare n)) j₀ = (.ok (.prepare bytes), j) := by
    rw [Step.perform, outcome_map, hp]
    rfl
  generalize hts : Step.prepare n :: ts = us at he
  cases he with
  | @broken done j₁ t _ _ rest hdone ht =>
    cases done with
    | nil =>
      obtain ⟨rfl, rfl⟩ := List.cons.inj hts
      cases hdone
      rw [hprepare] at ht
      cases ht
    | cons u done =>
      obtain ⟨rfl, rfl⟩ := List.cons.inj hts
      cases hdone with
      | cons hu hdone =>
        rw [hprepare] at hu
        cases hu
        exact ⟨rfl, done, t, rest, j₁, rfl, hdone, ht⟩

theorem run_fails_of_survey {r : Config} (hr : c.complete = .ok r)
    (hs : survey s r [] r.databases = .error f) : ∃ g j', outcome (run s c) ⟨d, []⟩ = (.error g, j') := by
  rcases hrun : outcome (run s c) ⟨d, []⟩ with ⟨g | sm, j'⟩
  · exact ⟨g, j', rfl⟩
  · obtain ⟨r', folder, hr', _, h⟩ := run_eq_ok_iff.1 hrun
    cases hr.symm.trans hr'
    obtain ⟨_, j₁, rs, _, hp, hs', _⟩ := runCompleted_eq_ok_iff.1 h
    have hsilent : (outcome (prepare r folder) ⟨d, []⟩).2.events = [] := prepare_silent _ rfl
    rw [hp] at hsilent
    rw [Journal.calls, hsilent] at hs'
    cases hs.symm.trans hs'

/-- The context is cleaned away, and then the signature of a function cannot be read. -/
def stopping : Config where
  modelsFolder := some ⟨0, ["m"]⟩
  contextFile := some ⟨0, ["c.cs"]⟩
  «namespace» := some "N"
  clean := true
  databases := [⟨"D", none, {}⟩]

def completedStopping : Config := { stopping with
  modelsNamespace := some "N"
  contextNamespace := some "N"
  contextName := some "MyORMKustoDbContext"
  contextFolder := some ⟨0, []⟩ }

def stoppingSetting : Setting where
  catalog := {
    tables := fun _ _ => .ok [⟨"Book", "id", "System.Int32"⟩]
    functions := fun _ _ => .ok [⟨"Late", "(a:b:c)"⟩]
    probe := fun _ _ _ _ => .ok [] }
  types := {}
  now := .first

def stoppingDisk : Disk := ⟨["w"], [(["w"], .directory), (["w", "c.cs"], .file "old".toUTF8)]⟩

theorem prepare_stopping : ∃ j,
    outcome (prepare completedStopping ⟨0, ["m"]⟩) ⟨stoppingDisk, []⟩ = (.ok 3, j) := by
  refine ⟨_, Prod.ext ?_ rfl⟩
  cbv

theorem stoppingDisk_sound : stoppingDisk.Sound := by
  apply sound_of_entries
  · decide
  · decide
  · simp [stoppingDisk, IsEntryName]
  · simp [stoppingDisk]
  · rfl

theorem stoppingDisk_linkFree : stoppingDisk.LinkFree := linkFree_of_entries (by simp [stoppingDisk])

end EntityGen.Generation
