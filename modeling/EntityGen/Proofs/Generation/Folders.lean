import EntityGen.Proofs.Disk.Passable
import EntityGen.Proofs.Generation.Prepared

/-! The folders that a run makes are there before anything is removed. -/

namespace EntityGen

namespace Action

open Disk

variable {α β : Type} {d d' : Disk} {p : Path} {t : Trouble}

/-- Whatever an action fails for, it is no character in a path. -/
def Refusing (x : Action α) : Prop := ∀ d, (outcome x d).1 ≠ .error .nul

namespace Refusing

theorem bind {x : Action α} {f : α → Action β} (hx : Refusing x) (hf : ∀ a, Refusing (f a)) :
    Refusing (x >>= f) := by
  intro d
  have h := hx d
  rw [outcome_bind]
  generalize outcome x d = r at h
  rcases r with ⟨t | a, d'⟩
  · exact fun ht => h (congrArg _ (Except.error.inj ht))
  · exact hf a d'

theorem tryCatch {x : Action α} {f : Trouble → Action α} (hx : Refusing x)
    (hf : ∀ r, Refusing (f (.refusal r))) : Refusing (tryCatch x f) := by
  intro d
  have h := hx d
  rw [outcome_tryCatch]
  generalize outcome x d = r at h
  rcases r with ⟨⟨_ | _⟩ | a, d'⟩
  · exact hf _ d'
  · exact absurd rfl h
  · nofun

end Refusing

theorem makeDirectory_refusing (h : p.hasNul = false) : Refusing (makeDirectory p) := by
  intro d
  rw [outcome_makeDirectory]
  cases hl : d.locate false p with
  | error t => exact fun ht => locate_ne_nul h (hl.trans (congrArg _ (Except.error.inj ht)))
  | ok l =>
    dsimp only
    cases d.get? l <;> nofun

theorem allowDirectory_refusing (p : Path) (r : Refusal) : Refusing (allowDirectory p (.refusal r)) := by
  intro d
  simp only [allowDirectory, outcome_bind, outcome_get]
  rcases d.isDirectory p with _ | (_ | _)
  all_goals
    intro h
    cases h

theorem ensureDirectory_refusing (h : p.hasNul = false) : Refusing (ensureDirectory p) := by
  refine (makeDirectory_refusing h).tryCatch fun r => ?_
  cases r with
  | missing => nofun
  | _ => exact allowDirectory_refusing p _

theorem ensureNames_refusing {slashes : Nat} {names : List String}
    (h : Path.hasNul ⟨slashes, names.reverse⟩ = false) : Refusing (ensureNames slashes names) := by
  induction names with
  | nil => exact ensureDirectory_refusing h
  | cons name above ih =>
    refine (makeDirectory_refusing h).tryCatch fun r => ?_
    have habove : Path.hasNul ⟨slashes, above.reverse⟩ = false := by
      simp only [Path.hasNul, List.reverse_cons, List.any_append, Bool.or_eq_false_iff] at h ⊢
      exact h.1
    cases r with
    | missing => exact (ih habove).bind fun _ => ensureDirectory_refusing h
    | _ => exact allowDirectory_refusing _ _

theorem ensureDirectories_refusing (h : p.hasNul = false) : Refusing (ensureDirectories p) := by
  refine ensureNames_refusing ?_
  rwa [List.reverse_reverse]

theorem outcome_makeDirectory_of_hasNul (h : p.hasNul = true) (d : Disk) :
    outcome (makeDirectory p) d = (.error .nul, d) := by
  rw [outcome_makeDirectory, Disk.locate, if_pos h]

theorem outcome_ensureNames_of_hasNul {slashes : Nat} {names : List String}
    (h : Path.hasNul ⟨slashes, names.reverse⟩ = true) (d : Disk) :
    outcome (ensureNames slashes names) d = (.error .nul, d) := by
  cases names with
  | nil => simp [Path.hasNul] at h
  | cons name above =>
    rw [ensureNames, outcome_tryCatch, outcome_makeDirectory_of_hasNul h]
    rfl

/-- No other trouble comes of a character that no name can have, and it comes of nothing else. -/
theorem nul_iff_of_ensureDirectories (h : outcome (ensureDirectories p) d = (.error t, d')) :
    t = .nul ↔ p.hasNul = true := by
  constructor
  · rintro rfl
    by_contra hnul
    rw [Bool.not_eq_true] at hnul
    exact ensureDirectories_refusing hnul d (congrArg Prod.fst h)
  · intro hnul
    have hp : (⟨p.slashes, p.names.reverse.reverse⟩ : Path) = p := by rw [List.reverse_reverse]
    rw [ensureDirectories, outcome_ensureNames_of_hasNul (hp.symm ▸ hnul)] at h
    cases h
    rfl

end Action

/-- Only directories were added, each of them on the way of a path. -/
structure Disk.AddsFolders (d : Disk) (ps : List Path) (d' : Disk) : Prop where
  home : d'.home = d.home
  entries : ∀ l, d'.get? l = d.get? l ∨
    d.get? l = none ∧ d'.get? l = some .directory ∧ ∃ p ∈ ps, d.LeadsThrough p l

/-- What comes to be on none of the ways is spared. -/
theorem Disk.Adds.addsFolders {d d' : Disk} {ps : List Path} (ha : d.Adds d') (hl : d.LinkFree)
    (hspares : ∀ l, (∀ p ∈ ps, ¬ d.LeadsThrough p l) → d.Spares l d') : d.AddsFolders ps d' := by
  refine ⟨ha.home, fun l => (ha.get?_eq_or hl l).imp_right fun ⟨hnone, hdir⟩ => ⟨hnone, hdir, ?_⟩⟩
  apply Classical.byContradiction
  intro hway
  rw [(hspares l fun p hp h => hway ⟨p, hp, h⟩).same, hnone] at hdir
  cases hdir

namespace Generation

open Disk Run

variable {d d' : Disk} {ps : List Path} {events : List Event}

theorem makeFolders_addsFolders (hd : d.Sound) (hl : d.LinkFree) (ps : List Path) :
    d.AddsFolders ps (outcome (makeFolders ps) d).2 := by
  have ha : d.Adds (outcome (makeFolders ps) d).2 :=
    Preserves.forM (fun p (_ : p ∈ ps) => Action.ensureDirectories_adds (d := d) p) d (.refl hd)
  refine ha.addsFolders hl fun l hway => ?_
  exact Preserves.forM (fun p hp => Action.ensureDirectories_spares (hway p hp)) d (.refl hl)

/-- What a run fails with if it cannot make a folder. -/
inductive FolderFailure (p : Path) : Failure → Prop
  | refused (r : Refusal) (h : p.hasNul = false) : FolderFailure p (.filesystem (.createDirectory r) p.text)
  | nul (h : p.hasNul = true) : FolderFailure p (.data .nulInPath)

theorem folderFailure_of_error {p : Path} {t : Trouble}
    (h : outcome (Action.ensureDirectories p) d = (.error t, d')) :
    FolderFailure p (failureOf (fun r => .filesystem (.createDirectory r) p.text) t) := by
  have hnul := Action.nul_iff_of_ensureDirectories h
  cases t with
  | nul => exact .nul (hnul.1 rfl)
  | refusal r => exact .refused r (Bool.eq_false_iff.2 fun hp => nomatch hnul.2 hp)

/-- Making folders ends at the first one that cannot be made. -/
theorem outcome_forM_makeFolder (hd : d.Sound) (hl : d.LinkFree) (ps : List Path) (events : List Event) :
    (∃ d₁, outcome (makeFolders ps) d = (.ok (), d₁) ∧
      outcome (ps.forM makeFolder) ⟨d, events⟩ = (.ok (), ⟨d₁, events⟩)) ∨
    ∃ p ∈ ps, ¬d.Passable p ∧ ∃ f, FolderFailure p f ∧
      outcome (ps.forM makeFolder) ⟨d, events⟩ = (.error f, ⟨(outcome (makeFolders ps) d).2, events⟩) := by
  induction ps generalizing d with
  | nil => exact .inl ⟨d, rfl, rfl⟩
  | cons p ps ih =>
    simp only [makeFolders, outcome_forM_cons, makeFolder, outcome_act]
    rcases h : outcome (Action.ensureDirectories p) d with ⟨t | _, d₁⟩
    · refine .inr ⟨p, List.mem_cons_self, fun hp => ?_, _, folderFailure_of_error h, rfl⟩
      obtain ⟨d', hd'⟩ := (Action.ensureDirectories_ok_iff hd hl).2 hp
      rw [h] at hd'
      cases hd'
    · have ha := Action.adds_of_ensureDirectories hd h
      rcases ih ha.sound (ha.linkFree hl) with hok | ⟨q, hq, hpass, hf⟩
      · exact .inl hok
      · exact .inr ⟨q, List.mem_cons_of_mem p hq, fun hp => hpass (hp.of_adds ha), hf⟩

/-- A path with a character that no name can have. -/
def brokenFolder : Path := ⟨0, ["a\x00b"]⟩

end Generation
end EntityGen
