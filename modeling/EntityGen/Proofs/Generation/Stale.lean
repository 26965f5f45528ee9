import EntityGen.Proofs.Generation.Phases
import EntityGen.Proofs.Generation.Recorded

/-! What was below the folder of the models before a run that cleans has no influence. -/

namespace EntityGen.Generation

open Disk

variable {c : Config} {folder : Path} {d₁ d₂ : Disk} {l : Place} {events₁ events₂ : List Event} {sm₁ sm₂ : Summary}
  {j₁ j₂ : Journal}

/-- After a run that cleans, the folder of the models has nothing in it but what was written. -/
theorem get?_of_run_clean {s : Setting} {d : Disk} {events : List Event} {sm : Summary} {j : Journal} {r : Config}
    (hr : c.complete = .ok r) (hc : r.clean = true) (hm : r.modelsFolder = some folder) (hd : d.Sound)
    (hl : d.LinkFree) (h : outcome (run s c) ⟨d, events⟩ = (.ok sm, j)) :
    ∃ rs, survey s r (Journal.mk d events).calls r.databases = .ok rs ∧ ∀ l, d.placeOf folder <+: l →
      j.disk.get? l = (Output.marks d l (outputs s r rs)).or
        (if l = d.placeOf folder then some .directory else none) := by
  obtain ⟨e, rs, h, _⟩ := (run_eq_ok_iff_phases hr hm hd hl).1 h
  refine ⟨rs, h.told, fun l hb => ?_⟩
  rw [h.get?_eq hd hl]
  congr 1
  split
  · next heq => rw [heq, h.get?_prepared_folder hd hl]
  · next hne =>
    exact get?_prepared_of_stale ((h.adds hd).linkFree hl) (h.stale_of_below hd hl hc hb hne)

/-- Two runs that clean leave the same below the folder of the models, and the folder itself, whatever was on the
disks before and at whatever times they run. -/
theorem run_ignores_stale (k : Snapshot) (types : TypeMap) (now₁ now₂ : Calendar.Moment) (hc : c.clean = true)
    (hm : c.modelsFolder = some folder) (hd₁ : d₁.Sound) (hl₁ : d₁.LinkFree) (hd₂ : d₂.Sound) (hl₂ : d₂.LinkFree)
    (home : d₂.home = d₁.home)
    (h₁ : outcome (run ⟨k.catalog, types, now₁⟩ c) ⟨d₁, events₁⟩ = (.ok sm₁, j₁))
    (h₂ : outcome (run ⟨k.catalog, types, now₂⟩ c) ⟨d₂, events₂⟩ = (.ok sm₂, j₂)) :
    ∀ l, d₁.placeOf folder <+: l → j₂.disk.get? l = j₁.disk.get? l := by
  obtain ⟨r, folder', hr, hm', _⟩ := run_eq_ok_iff.1 h₁
  have hcr := Config.completes_of_complete hr
  rw [hcr.modelsFolder, hm] at hm'
  cases hm'
  rw [← hcr.modelsFolder] at hm
  rw [← hcr.clean] at hc
  obtain ⟨rs₁, hs₁, hget₁⟩ := get?_of_run_clean hr hc hm hd₁ hl₁ h₁
  obtain ⟨rs₂, hs₂, hget₂⟩ := get?_of_run_clean hr hc hm hd₂ hl₂ h₂
  have ho := outputs_of_survey (s := ⟨k.catalog, types, now₁⟩) k.recorded_catalog hs₁ hs₂
  intro l hb
  rw [hget₁ l hb, hget₂ l ((placeOf_congr home folder).symm ▸ hb), placeOf_congr home, Output.marks_congr home]
  rw [← ho]

theorem phases_single {r : Config} {sm : Summary} {j : Journal} (hr : c.complete = .ok r)
    (hm : r.modelsFolder = some ⟨0, ["m"]⟩) (hdb : r.databases = [⟨"D", none, {}⟩])
    (h : outcome (run singleSetting c) ⟨Disk.fresh ["w"], []⟩ = (.ok sm, j)) : ∃ d₁,
      Phases singleSetting r ⟨0, ["m"]⟩ [] singleReports (Disk.fresh ["w"]) d₁ j.disk ∧
        sm = summary singleSetting r singleReports (cleaned r ⟨0, ["m"]⟩ d₁) := by
  obtain ⟨d₁, rs, hp, hsm, _⟩ := (run_eq_ok_iff_phases hr hm fresh_sound fresh_linkFree).1 h
  cases hp.told.symm.trans (survey_single hm hdb)
  exact ⟨d₁, hp, hsm⟩

def renewing : Config where
  modelsFolder := some ⟨0, ["m"]⟩
  contextFile := some ⟨0, ["c.cs"]⟩
  «namespace» := some "N"
  clean := true
  databases := [⟨"D", none, {}⟩]

def completedRenewing : Config := { renewing with
  modelsNamespace := some "N"
  contextNamespace := some "N"
  contextName := some "MyORMKustoDbContext"
  contextFolder := some ⟨0, []⟩ }

theorem outputs_renewing : ∃ text context, outputs singleSetting completedRenewing singleReports =
    [⟨⟨0, ["m", "T.cs"]⟩, text⟩, ⟨⟨0, ["c.cs"]⟩, context⟩] := by
  obtain ⟨text, ho⟩ := outputs_single (c := completedRenewing) rfl
  rw [contextOutput_of_context rfl rfl] at ho
  exact ⟨text, _, ho⟩

/-- A directory with a file in it is where the model belongs. -/
def staleDisk : Disk where
  home := ["w"]
  entries := [(["w"], .directory), (["w", "m"], .directory), (["w", "m", "T.cs"], .directory),
    (["w", "m", "T.cs", "old"], .file "old".toUTF8)]

theorem staleDisk_sound : staleDisk.Sound := by
  apply sound_of_entries
  · decide
  · decide
  · simp [staleDisk, IsEntryName]
  · simp [staleDisk]
  · rfl

theorem staleDisk_linkFree : staleDisk.LinkFree := linkFree_of_entries (by simp [staleDisk])

theorem run_renewing_stale : ∃ sm j, outcome (run singleSetting renewing) ⟨staleDisk, []⟩ = (.ok sm, j) := by
  obtain ⟨text, context, ho⟩ := outputs_renewing
  refine exists_run (r := completedRenewing) (n := 3) rfl rfl ?_ (survey_single rfl rfl) ?_
  · cbv
  · rw [ho]
    cbv

theorem run_renewing_fresh : ∃ sm j,
    outcome (run singleSetting renewing) ⟨Disk.fresh ["w"], []⟩ = (.ok sm, j) := by
  obtain ⟨text, context, ho⟩ := outputs_renewing
  refine exists_run (r := completedRenewing) (n := 0) rfl rfl ?_ (survey_single rfl rfl) ?_
  · cbv
  · rw [ho]
    cbv

/-- Nothing but the model is below the folder then. -/
theorem fits_renewing {sm : Summary} {j : Journal}
    (h : outcome (run singleSetting renewing) ⟨Disk.fresh ["w"], []⟩ = (.ok sm, j))
    (hb : j.disk.Below (j.disk.placeOf ⟨0, ["m"]⟩) l) :
    Fits ⟨0, ["m"]⟩ (l.drop (j.disk.placeOf ⟨0, ["m"]⟩).length) := by
  obtain ⟨d₁, hp, _⟩ := phases_single (r := completedRenewing) rfl rfl rfl h
  obtain ⟨text, context, ho⟩ := outputs_renewing
  obtain ⟨o, hmem, hplace⟩ := hp.exists_output_of_below fresh_sound fresh_linkFree rfl hb
  rw [placeOf_congr (hp.home fresh_sound fresh_linkFree)] at hb ⊢
  have hprefix := hb.isPrefix
  have hlen := hb.length_lt
  simp only [ho, List.mem_cons, List.not_mem_nil, or_false] at hmem
  rcases hmem with rfl | rfl
  · rcases hplace with rfl | hway
    · change Fits ⟨0, ["m"]⟩ ["T.cs"]
      decide
    · -- What is above the model is the folder of the models, or above it.
      have hstops : l ∈ stops ["w"] ["m"] := hway
      have hends : l = ["w"] ∨ l = ["w", "m"] := by simpa [stops, step] using hstops
      rcases hends with rfl | rfl <;> exact absurd hlen (by decide)
  · rcases hplace with rfl | hway
    · have hnot : ¬ ["w", "m"] <+: ["w", "c.cs"] := by decide
      exact absurd hprefix hnot
    · have hstops : l ∈ stops ["w"] [] := hway
      have hend : l = ["w"] := by simpa [stops] using hstops
      rw [hend] at hlen
      exact absurd hlen (by decide)

theorem run_ignores_stale_renewing : ∃ sm₁ j₁ sm₂ j₂, renewing.clean = true ∧
    renewing.modelsFolder = some ⟨0, ["m"]⟩ ∧ (Disk.fresh ["w"]).Sound ∧ (Disk.fresh ["w"]).LinkFree ∧
    staleDisk.Sound ∧ staleDisk.LinkFree ∧ staleDisk.home = (Disk.fresh ["w"]).home ∧
    outcome (run singleSetting renewing) ⟨Disk.fresh ["w"], []⟩ = (.ok sm₁, j₁) ∧
    outcome (run singleSetting renewing) ⟨staleDisk, []⟩ = (.ok sm₂, j₂) ∧
    ∀ l, (Disk.fresh ["w"]).placeOf ⟨0, ["m"]⟩ <+: l → j₂.disk.get? l = j₁.disk.get? l := by
  obtain ⟨sm₁, j₁, h₁⟩ := run_renewing_fresh
  obtain ⟨sm₂, j₂, h₂⟩ := run_renewing_stale
  exact ⟨sm₁, j₁, sm₂, j₂, rfl, rfl, fresh_sound, fresh_linkFree, staleDisk_sound, staleDisk_linkFree, rfl, h₁, h₂,
    run_ignores_stale singleSnapshot {} .first .first rfl rfl fresh_sound fresh_linkFree staleDisk_sound
      staleDisk_linkFree rfl h₁ h₂⟩

end EntityGen.Generation
