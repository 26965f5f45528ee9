import EntityGen.Proofs.Cleaning.DryRun
import EntityGen.Proofs.Disk.Passage
import EntityGen.Proofs.Generation.Preparation

/-! What preparing leaves where the context belongs. -/

namespace EntityGen

namespace Disk

variable {d : Disk} {file : Path}

/-- A file in a directory is found if its path is not too long. -/
theorem locate_file (hd : d.Sound) (hl : d.LinkFree) (hp : d.isDirectory file.parent = .ok true)
    (hf : (d.file? (d.placeOf file)).isSome) : d.locate true file = .ok (d.placeOf file) ∨
      d.locate true file = .error (.refusal .nameTooLong) := by
  obtain ⟨m, hm, hmd⟩ := isDirectory_iff.1 hp
  have hmp := hl.locate_eq_placeOf hm
  obtain ⟨content, hc⟩ := Option.isSome_iff_exists.1 hf
  rw [file?_eq_some_iff] at hc
  rcases List.eq_nil_or_concat file.names with hn | ⟨above, name, hn⟩
  · have hfile : file.parent = file := by
      rw [Path.parent, hn, List.dropLast_nil, ← hn]
    rw [hfile] at hmp
    rw [← hmp, hmd] at hc
    cases hc
  · have hfile : file = file.parent.below [name] := by
      rw [Path.parent, Path.below, hn, List.concat_eq_append, List.dropLast_concat, ← List.concat_eq_append, ← hn]
    have hplace : d.placeOf file = step m name := by
      rw [hfile, placeOf_eq, hmp, placeOf_eq, Path.below, List.foldl_append]
      rfl
    rw [hplace] at hc ⊢
    by_cases hne : name = ".."
    · rw [step, if_pos hne, hd.get?_dropLast hmd] at hc
      cases hc
    · rw [step_enter m hne] at hc ⊢
      have hlink : ∀ t, Entry.file content ≠ .link t := by
        intro t ht
        cases ht
      rw [hfile, hd.locate_below true hm hmd (List.cons_ne_nil _ _) hc fun _ => hlink]
      split
      · exact .inl rfl
      · exact .inr rfl

end Disk

namespace Cleaning

open Disk Run

variable {d : Disk} {file folder : Path} {j : Journal} {events : List Event} {n : Nat}

/-- The file of the context is taken away, and nothing else is, if its directory is there. -/
theorem disk_of_cleanContext (hd : d.Sound) (hl : d.LinkFree) (hp : d.isDirectory file.parent = .ok true)
    (hf : (d.file? (d.placeOf file)).isSome)
    (hc : outcome (cleanContext false (some file)) ⟨d, events⟩ = (.ok n, j)) :
    j.disk = d.withoutFiles [d.placeOf file] := by
  have hplaces : contextPlaces d (some file) = [d.placeOf file] := by
    rcases locate_file hd hl hp hf with hloc | hloc
    · rw [contextPlaces, hloc]
      dsimp only
      rw [if_pos hf]
    · -- A path that is too long is a failure.
      have hask : d.isFile file = .error .nameTooLong := test_eq_error_iff.2 ⟨rfl, hloc⟩
      rw [cleanContext, removeFile, outcome_bind, outcome_ask, hask] at hc
      cases hc
  rcases outcome_cleanContext hl (some file) events with ⟨f, hfail⟩ | hok
  · have hfail := hfail false
    rw [hc] at hfail
    cases hfail
  · obtain ⟨events', hok⟩ := hok false
    rw [hc, hplaces] at hok
    cases hok
    rfl

theorem get?_withoutFiles_self {l : Place} (hf : (d.file? l).isSome) : (d.withoutFiles [l]).get? l = none := by
  have hroot : l ≠ [] := by
    rintro rfl
    cases hf
  exact get?_without_of hroot (by simp [hf])

/-- When cleaning is done the file of the context is gone, if its directory was there. -/
theorem gone_of_cleanOutput (hd : d.Sound) (hl : d.LinkFree) (hp : d.isDirectory file.parent = .ok true)
    (hf : (d.file? (d.placeOf file)).isSome)
    (hc : outcome (cleanOutput false folder (some file)) ⟨d, events⟩ = (.ok n, j)) :
    j.disk.get? (d.placeOf file) = none := by
  obtain ⟨a, j₁, h₁, hc⟩ := outcome_bind_eq_ok_iff.1 hc
  obtain ⟨b, j₂, h₂, hc⟩ := outcome_bind_eq_ok_iff.1 hc
  cases hc
  have hcontext : d.Loses (Cleanable d folder (some file))
      (outcome (cleanContext false (some file)) ⟨d, events⟩).2.disk := cleanContext_loses hd events
  rw [h₁] at hcontext
  have hgone : j₁.disk.get? (d.placeOf file) = none := by
    rw [disk_of_cleanContext hd hl hp hf h₁, get?_withoutFiles_self hf]
  -- What follows takes things away only.
  have hloses : j₁.disk.Loses (Cleanable j₁.disk folder none) (outcome (cleanModels false folder) j₁).2.disk :=
    cleanModels_loses hcontext.sound j₁ (.refl hcontext.sound)
  rw [h₂] at hloses
  rcases hloses.get? (d.placeOf file) with hsame | ⟨hnone, _⟩
  · exact hsame.trans hgone
  · exact hnone

end Cleaning

namespace Generation

open Disk Run

/-- What preparing leaves where the context belongs: without cleaning every file is as it was, with cleaning
the context is gone. No file was where the way to its folder leads through. -/
structure Prepares (c : Config) (d d' : Disk) : Prop where
  sound : d'.Sound
  linkFree : d'.LinkFree
  home : d'.home = d.home
  kept : c.clean = false → ∀ l, d'.file? l = d.file? l
  gone : c.clean = true → ∀ file, c.contextFile = some file → (d.file? (d.placeOf file)).isSome →
    d'.get? (d.placeOf file) = none
  way : ∀ file l, c.contextFile = some file → d.LeadsThrough file.parent l →
    d.file? l = none ∧ (d'.get? l = some .directory ∨ d'.get? l = none)

variable {c : Config} {folder : Path} {j j' : Journal} {n : Nat}

/-- Folders that are made are there. -/
theorem isDirectory_of_makeFolders {d d' : Disk} {ps : List Path} {p : Path} (hd : d.Sound) (hl : d.LinkFree)
    (h : outcome (makeFolders ps) d = (.ok (), d')) (hp : p ∈ ps) : d'.isDirectory p = .ok true := by
  obtain ⟨before, after, rfl⟩ := List.append_of_mem hp
  rw [makeFolders, outcome_forM_append_eq_ok_iff] at h
  obtain ⟨d₁, h₁, h₂⟩ := h
  obtain ⟨d₂, h₂, h₃⟩ := outcome_forM_cons_eq_ok_iff.1 h₂
  have ha₁ := makeFolders_adds hd _ h₁
  have hdir := Action.isDirectory_of_ensureDirectories ha₁.sound (ha₁.linkFree hl) h₂
  have ha₂ := Action.adds_of_ensureDirectories ha₁.sound h₂
  exact (makeFolders_adds ha₂.sound _ h₃).isDirectory hdir

theorem prepares_of_prepare (hd : j.disk.Sound) (hl : j.disk.LinkFree)
    (hc : ∀ file, c.contextFile = some file → c.contextFolder = some file.parent)
    (hp : outcome (prepare c folder) j = (.ok n, j')) : Prepares c j.disk j'.disk := by
  obtain ⟨d₀, h₀, hp⟩ := prepare_eq_ok_iff_makeFolders.1 hp
  have ha := makeFolders_adds hd _ h₀
  have hl₀ := ha.linkFree hl
  have hparent : ∀ file, c.contextFile = some file → d₀.isDirectory file.parent = .ok true := by
    intro file hfile
    rw [folders, hc file hfile] at h₀
    exact isDirectory_of_makeFolders hd hl h₀ (List.mem_cons_of_mem folder (List.mem_singleton_self _))
  have hloses : d₀.Loses (Cleaning.Cleanable d₀ folder c.contextFile) j'.disk := by
    split at hp
    · have h : d₀.Loses (Cleaning.Cleanable d₀ folder c.contextFile)
          (outcome (Cleaning.cleanOutput false folder c.contextFile) ⟨d₀, j.events⟩).2.disk :=
        Cleaning.loses_cleanable ha.sound j.events
      rwa [hp] at h
    · cases hp
      exact .refl ha.sound
  constructor
  case sound => exact hloses.sound
  case linkFree => exact hloses.linkFree hl₀
  case home => exact hloses.home.trans ha.home
  case kept =>
    intro hclean l
    rw [hclean] at hp
    cases hp
    exact ha.same l
  case gone =>
    intro hclean file hfile hf
    rw [hclean, hfile] at hp
    rw [← placeOf_congr ha.home] at hf ⊢
    rw [← ha.same] at hf
    exact Cleaning.gone_of_cleanOutput ha.sound hl₀ (hparent file hfile) hf hp
  case way =>
    intro file l hfile hway
    rw [← leadsThrough_congr ha.home] at hway
    have hdir : d₀.get? l = some .directory := (hl₀.isDirectory_true_iff.1 (hparent file hfile)).2 l hway
    constructor
    · rw [← ha.same, file?, hdir]
    · rcases hloses.get? l with h | ⟨h, _⟩
      · exact .inl (h.trans hdir)
      · exact .inr h

end Generation
end EntityGen
