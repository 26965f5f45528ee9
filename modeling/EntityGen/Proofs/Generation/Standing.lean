import EntityGen.Proofs.Generation.Phases

/-! Which of the folders that a run makes are left when it begins to write. -/

namespace EntityGen.Generation

open Disk

variable {c : Config} {folder p : Path} {d d₁ : Disk} {l : Place} {events : List Event} {n : Nat} {j : Journal}

/-- Cleaning takes a directory away exactly if it is strictly below the folder of the models. -/
def Doomed (c : Config) (folder : Path) (d : Disk) (l : Place) : Prop :=
  c.clean = true ∧ d.placeOf folder <+: l ∧ l ≠ d.placeOf folder

namespace Opens

variable (h : Opens c folder d d₁) (hd : d.Sound) (hl : d.LinkFree)

include h hd hl

theorem get?_prepared_of_directory (hdir : d₁.get? l = some .directory) :
    (prepared c folder d₁).get? l = some .directory ↔ ¬ Doomed c folder d l := by
  have hl₁ := (h.adds hd).linkFree hl
  constructor
  · rintro hleft ⟨hc, hb, hne⟩
    rw [get?_prepared_of_stale hl₁ (h.stale_of_below hd hl hc hb hne)] at hleft
    cases hleft
  · intro hdoomed
    rw [get?_prepared_of_not_stale hl₁, hdir]
    exact fun hs => hdoomed ⟨hs.1, h.below_of_stale hd hl hs hdir⟩

/-- A folder that was made is left if nothing on the way to it is taken away. -/
theorem isDirectory_prepared_iff (hp : p ∈ folders c folder) :
    (prepared c folder d₁).isDirectory p = .ok true ↔ ∀ l, d.LeadsThrough p l → ¬ Doomed c folder d l := by
  have ha := h.adds hd
  obtain ⟨hproper, hdirs⟩ := (ha.linkFree hl).isDirectory_true_iff.1 (h.isDirectory hd hl hp)
  rw [(h.linkFree_prepared hd hl).isDirectory_true_iff, start_congr (h.home_prepared hd hl)]
  rw [start_congr ha.home] at hdirs
  constructor
  · rintro ⟨-, hleft⟩ l hway
    exact (h.get?_prepared_of_directory hd hl (hdirs l hway)).1 (hleft l hway)
  · intro hway
    exact ⟨hproper, fun l hmem => (h.get?_prepared_of_directory hd hl (hdirs l hmem)).2 (hway l hmem)⟩

end Opens

/-- Where no dots lead back, only the place itself counts. -/
theorem forall_not_doomed_iff (hn : ".." ∉ p.names) :
    (∀ l, d.LeadsThrough p l → ¬ Doomed c folder d l) ↔ ¬ Doomed c folder d (d.placeOf p) := by
  constructor
  · exact fun h => h _ (leadsThrough_placeOf d p)
  · rintro h l hway ⟨hc, hb, hne⟩
    have hprefix := prefix_of_mem_stops hn hway
    rw [← foldl_step_of_notMem hn, ← placeOf_eq] at hprefix
    refine h ⟨hc, hb.trans hprefix, fun heq => hne ?_⟩
    -- the way ends at the folder itself, so it does not lead below it before
    rw [heq] at hprefix
    exact hprefix.eq_of_length_le hb.length_le

/-- The folders are made before cleaning, and cleaning takes away what is empty below the folder of the models.
So each folder is left exactly if its way does not lead through what is strictly below that folder; the place
of that folder itself is always left. -/
theorem prepare_leaves_folders (hd : d.Sound) (hl : d.LinkFree)
    (hp : outcome (prepare c folder) ⟨d, events⟩ = (.ok n, j)) :
    j.disk.get? (d.placeOf folder) = some .directory ∧ ∀ p ∈ folders c folder,
      (j.disk.isDirectory p = .ok true ↔ ∀ l, d.LeadsThrough p l → ¬ Doomed c folder d l) ∧
      (".." ∉ p.names → (j.disk.isDirectory p = .ok true ↔ ¬ Doomed c folder d (d.placeOf p))) := by
  obtain ⟨d₁, hmade, hsweep, -, rfl⟩ := (prepare_eq_ok_iff_prepared hd hl).1 hp
  have h : Opens c folder d d₁ := ⟨hmade, hsweep⟩
  refine ⟨h.get?_prepared_folder hd hl, fun p hp => ?_⟩
  have hiff := h.isDirectory_prepared_iff hd hl hp
  exact ⟨hiff, fun hn => hiff.trans (forall_not_doomed_iff hn)⟩

/-- The folder of the context is below that of the models. -/
def nesting : Config where
  modelsFolder := some ⟨0, ["m"]⟩
  contextFile := some ⟨0, ["m", "c", "C.cs"]⟩
  contextFolder := some ⟨0, ["m", "c"]⟩
  clean := true

theorem prepare_nesting : ∃ j, outcome (prepare nesting ⟨0, ["m"]⟩) ⟨Disk.fresh ["w"], []⟩ = (.ok 0, j) := by
  refine ⟨_, Prod.ext ?_ rfl⟩
  cbv

theorem prepare_leaves_folders_nesting : ∃ j, (Disk.fresh ["w"]).Sound ∧ (Disk.fresh ["w"]).LinkFree ∧
    outcome (prepare nesting ⟨0, ["m"]⟩) ⟨Disk.fresh ["w"], []⟩ = (.ok 0, j) ∧
    j.disk.isDirectory ⟨0, ["m"]⟩ = .ok true ∧ j.disk.isDirectory ⟨0, ["m", "c"]⟩ ≠ .ok true := by
  obtain ⟨j, hp⟩ := prepare_nesting
  obtain ⟨-, hfolders⟩ := prepare_leaves_folders fresh_sound fresh_linkFree hp
  have hmodels := (hfolders ⟨0, ["m"]⟩ List.mem_cons_self).2 (by decide)
  have hcontext := (hfolders ⟨0, ["m", "c"]⟩ (by decide)).2 (by decide)
  refine ⟨j, fresh_sound, fresh_linkFree, hp, hmodels.2 ?_, fun hdir => hcontext.1 hdir ?_⟩
  · rintro ⟨-, -, hne⟩
    exact hne rfl
  · exact ⟨rfl, by decide, by decide⟩

end EntityGen.Generation
