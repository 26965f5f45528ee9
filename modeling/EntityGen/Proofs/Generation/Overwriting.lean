import EntityGen.Proofs.Generation.Contents

/-! Which models are still there when a run returns. -/

namespace EntityGen.Generation

open Disk

variable {s : Setting} {c : Config} {d d' : Disk} {e : Entity} {o : Output} {os : List Output}
  {rs : List Report} {es : List Entity}

def SamePlace (d : Disk) (p q : Path) : Prop := ∃ l, d.locate true p = .ok l ∧ d.locate true q = .ok l

theorem read_toUTF8_inj {p : Path} {t u : String} (ht : d.read p = .ok t.toUTF8)
    (hu : d.read p = .ok u.toUTF8) : t = u := by
  rw [ht] at hu
  exact String.toByteArray_inj.1 (Except.ok.inj hu)

theorem SamePlace.read_eq {p q : Path} (h : SamePlace d p q) : d.read p = d.read q := by
  obtain ⟨l, hp, hq⟩ := h
  simp only [Disk.read, Disk.entry, hp, hq]

/-- Texts that are written can all be read again in the end if and only if no other text goes to the file of
one of them. One more text may come after them. -/
theorem reads_back_iff {own rest : List Output} (hd : d.Sound) (hrest : ∀ o ∈ rest, rest = [o])
    (hs : outcome ((own ++ rest).forM Output.save) d = (.ok (), d')) :
    (∀ o ∈ own, d'.read o.path = .ok o.text.toUTF8) ↔
      ∀ o ∈ own, ∀ o' ∈ own ++ rest, SamePlace d' o.path o'.path → o'.text = o.text := by
  constructor
  · intro h o ho o' ho' hp
    have hread : d'.read o'.path = .ok o.text.toUTF8 := by rw [← hp.read_eq, h o ho]
    rcases List.mem_append.1 ho' with hown | hr
    · exact read_toUTF8_inj (h o' hown) hread
    · -- The text that comes last is what is read.
      rw [hrest o' hr] at hs
      exact read_toUTF8_inj (Output.read_of_forM_save_append hd hs) hread
  · intro h o ho
    obtain ⟨l, last, hl, hlast, hread⟩ := Output.read_of_forM_save hd hs (List.mem_append_left _ ho)
    obtain ⟨hmem, hl'⟩ := Output.mem_of_last? hlast
    rw [hread, h o ho last hmem ⟨l, hl, hl'⟩]

theorem contextOutput_eq_singleton {as : List Artifact} (ho : o ∈ contextOutput c as) :
    contextOutput c as = [o] := by
  rcases contextOutput_eq_or c as with h | ⟨file, _, h⟩
  · rw [h] at ho
    cases ho
  · rw [h] at ho ⊢
    rw [List.mem_singleton.1 ho]

/-- What is left of the models. Each has a file with the text that came last to it, and all have their own
text if and only if no other text came to the file of one of them. -/
structure ModelsLeft (s : Setting) (c : Config) (rs : List Report) (d : Disk) (sm : Summary) : Prop where
  artifacts : sm.artifacts = (entities s c rs).map (·.artifact)
  modelPaths : sm.modelPaths = (entities s c rs).map Entity.path
  last : ∀ e ∈ entities s c rs, ∃ l last, d.locate true e.path = .ok l ∧
    Output.last? d l (outputs s c rs) = some last ∧ d.read e.path = .ok last.text.toUTF8
  own : (∀ e ∈ entities s c rs, d.read e.path = .ok (modelText s c e.name e.columns).toUTF8) ↔
    ∀ e ∈ entities s c rs, ∀ o ∈ outputs s c rs, SamePlace d e.path o.path →
      o.text = modelText s c e.name e.columns

theorem run_leaves_models {events : List Event} {sm : Summary} {j : Journal} (hd : d.Sound)
    (hrun : outcome (run s c) ⟨d, events⟩ = (.ok sm, j)) :
    ∃ r rs, c.complete = .ok r ∧ survey s r (Journal.mk d events).calls r.databases = .ok rs ∧
      ModelsLeft s r rs j.disk sm := by
  obtain ⟨r, folder, hr, hm, h⟩ := run_eq_ok_iff.1 hrun
  obtain ⟨bytes, j₁, rs, d', hp, hs, _, ho, rfl, rfl⟩ := runCompleted_eq_ok_iff.1 h
  have hsound : (outcome (prepare r folder) ⟨d, events⟩).2.disk.Sound := prepare_sound _ hd
  have hsilent : (outcome (prepare r folder) ⟨d, events⟩).2.events = events := prepare_silent _ rfl
  rw [hp] at hsound hsilent
  refine ⟨r, rs, hr, ?_, ?_⟩
  · rwa [Journal.calls, hsilent] at hs
  constructor
  case artifacts => rfl
  case modelPaths => rfl
  case last =>
    intro e he
    have he' : e.output s r ∈ outputs s r rs := List.mem_append_left _ (List.mem_map_of_mem he)
    exact Output.read_of_forM_save hsound ho he'
  case own =>
    have hback := reads_back_iff hsound (fun o => contextOutput_eq_singleton) ho
    rwa [List.forall_mem_map, List.forall_mem_map] at hback

/-- The context goes to the file of the only model. -/
def sharing : Config where
  modelsFolder := some ⟨0, ["m"]⟩
  contextFile := some ⟨0, ["m", "T.cs"]⟩
  «namespace» := some "N"
  databases := [⟨"D", none, {}⟩]

def completedSharing : Config := { sharing with
  modelsNamespace := some "N"
  contextNamespace := some "N"
  contextName := some "MyORMKustoDbContext"
  contextFolder := some ⟨0, ["m"]⟩ }

def sharingSetting : Setting where
  catalog := {
    tables := fun _ _ => .ok [⟨"T", "a", "System.Int32"⟩]
    functions := fun _ _ => .ok []
    probe := fun _ _ _ _ => .ok [] }
  types := {}
  now := .first

def sharingReports : List Report :=
  [⟨⟨"D", none, {}⟩, ⟨0, ["m"]⟩, [⟨"T", "a", "System.Int32"⟩], [], []⟩]

theorem entities_sharing : entities sharingSetting completedSharing sharingReports =
    [⟨⟨0, ["m"]⟩, .ofTable "T", [⟨"a", "System.Int32"⟩]⟩] := by
  decide

theorem writeAll_sharing : ∃ d', outcome (writeAll completedSharing
    (outputs sharingSetting completedSharing sharingReports)) (Disk.fresh ["w"]) = (.ok (), d') := by
  refine ⟨_, Prod.ext ?_ rfl⟩
  rw [outputs, entities_sharing]
  simp only [List.map_cons, List.map_nil, contextOutput, completedSharing, sharing, Option.toList_some,
    if_true, Entity.output, modelText]
  generalize contextText _ _ = context
  generalize Model.text _ _ _ _ = model
  cbv

theorem run_leaves_models_sharing : ∃ sm j, (Disk.fresh ["w"]).Sound ∧
    outcome (run sharingSetting sharing) ⟨Disk.fresh ["w"], []⟩ = (.ok sm, j) ∧
    ∃ r rs, sharing.complete = .ok r ∧ survey sharingSetting r [] r.databases = .ok rs ∧
      ModelsLeft sharingSetting r rs j.disk sm := by
  obtain ⟨d', hw⟩ := writeAll_sharing
  have hrun : outcome (run sharingSetting sharing) ⟨Disk.fresh ["w"], []⟩ = _ := outcome_run rfl rfl rfl hw
  exact ⟨_, _, fresh_sound, hrun, run_leaves_models fresh_sound hrun⟩

end EntityGen.Generation
