import EntityGen.Generation
import EntityGen.Proofs.Cleaning.Frame
import EntityGen.Proofs.Disk.Growth

/-! The folders that a run makes before anything else. -/

namespace EntityGen.Generation

open Disk Run

variable {c : Config} {folder : Path} {j j' : Journal} {d d' : Disk}

def folders (c : Config) (folder : Path) : List Path := folder :: c.contextFolder.toList

def makeFolders (ps : List Path) : Action Unit := ps.forM Action.ensureDirectories

theorem makeFolders_adds (h : d.Sound) (ps : List Path) (hm : outcome (makeFolders ps) d = (.ok (), d')) :
    d.Adds d' := by
  have ha := Preserves.forM (fun p (_ : p ∈ ps) => Action.ensureDirectories_adds (d := d) p) d (.refl h)
  rw [makeFolders] at hm
  rwa [hm] at ha

theorem makeFolder_eq_ok_iff {p : Path} : outcome (makeFolder p) j = (.ok (), j') ↔
    ∃ d', outcome (Action.ensureDirectories p) j.disk = (.ok (), d') ∧ j' = ⟨d', j.events⟩ := by
  rw [makeFolder, outcome_act]
  rcases outcome (Action.ensureDirectories p) j.disk with ⟨_ | _, d'⟩
  · simp
  · simp [eq_comm]

theorem makeFolder_sound (p : Path) : Preserves (fun j => j.disk.Sound) (makeFolder p) := by
  refine act_preserves _ fun d h => ?_
  exact (Action.ensureDirectories_adds p d (.refl h)).sound

theorem forM_makeFolder_eq_ok_iff {ps : List Path} : outcome (ps.forM makeFolder) j = (.ok (), j') ↔
    ∃ d', outcome (makeFolders ps) j.disk = (.ok (), d') ∧ j' = ⟨d', j.events⟩ := by
  rw [makeFolders]
  induction ps generalizing j with
  | nil =>
    constructor
    · intro h
      cases h
      exact ⟨_, rfl, rfl⟩
    · rintro ⟨d', h, rfl⟩
      cases h
      rfl
  | cons p ps ih =>
    simp only [outcome_forM_cons_eq_ok_iff, makeFolder_eq_ok_iff, ih]
    constructor
    · rintro ⟨_, ⟨d₁, h₁, rfl⟩, d₂, h₂, rfl⟩
      exact ⟨d₂, ⟨d₁, h₁, h₂⟩, rfl⟩
    · rintro ⟨d₂, ⟨d₁, h₁, h₂⟩, rfl⟩
      exact ⟨_, ⟨d₁, h₁, rfl⟩, d₂, h₂, rfl⟩

theorem prepare_eq (c : Config) (folder : Path) : prepare c folder = (do
    (folders c folder).forM makeFolder
    if c.clean then Cleaning.cleanOutput false folder c.contextFile else return 0) := by
  rw [prepare, folders]
  cases c.contextFolder <;> simp [List.forM]

theorem prepare_eq_ok_iff_makeFolders {n : Nat} : outcome (prepare c folder) j = (.ok n, j') ↔ ∃ d',
    outcome (makeFolders (folders c folder)) j.disk = (.ok (), d') ∧
      outcome (if c.clean then Cleaning.cleanOutput false folder c.contextFile else return 0)
        ⟨d', j.events⟩ = (.ok n, j') := by
  rw [prepare_eq, outcome_bind_eq_ok_iff]
  constructor
  · rintro ⟨_, _, h, h'⟩
    obtain ⟨d₁, h₁, rfl⟩ := forM_makeFolder_eq_ok_iff.1 h
    exact ⟨d₁, h₁, h'⟩
  · rintro ⟨d₁, h₁, h'⟩
    exact ⟨(), _, forM_makeFolder_eq_ok_iff.2 ⟨d₁, h₁, rfl⟩, h'⟩

/-- Without cleaning only the folders are made. -/
theorem prepare_eq_ok_iff (hc : c.clean = false) {n : Nat} : outcome (prepare c folder) j = (.ok n, j') ↔
    ∃ d', outcome (makeFolders (folders c folder)) j.disk = (.ok (), d') ∧ n = 0 ∧ j' = ⟨d', j.events⟩ := by
  rw [prepare_eq_ok_iff_makeFolders, hc]
  simp only [Bool.false_eq_true, if_false, outcome_pure, Prod.mk.injEq, Except.ok.injEq]
  simp only [eq_comm]

theorem prepare_sound : Preserves (fun j => j.disk.Sound) (prepare c folder) := by
  rw [prepare_eq]
  refine .bind (.forM fun p _ => makeFolder_sound p) fun _ => ?_
  split
  · exact Cleaning.cleanOutput_sound
  · exact .pure _

theorem prepare_silent {es : List Event} : Preserves (fun j => j.events = es) (prepare c folder) := by
  rw [prepare_eq]
  refine .bind (.forM fun p _ => act_silent _ _) fun _ => ?_
  split
  · exact Cleaning.cleanOutput_silent
  · exact .pure _

end EntityGen.Generation
