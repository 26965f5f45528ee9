import EntityGen.Proofs.Generation.Contents
import EntityGen.Proofs.Generation.Folders
import EntityGen.Proofs.Generation.Marks
import EntityGen.Proofs.Generation.Success

/-! One text that is written: it is in its file afterwards, or no file has changed. -/

namespace EntityGen

theorem Path.hasNul_parent {p : Path} (h : p.hasNul = false) : p.parent.hasNul = false := by
  rw [hasNul, List.any_eq_false] at h ⊢
  exact fun name hname => h name ((List.dropLast_sublist _).subset hname)

namespace Action

open Disk

variable {p : Path}

theorem writeFile_refusing (h : p.hasNul = false) (content : ByteArray) : Refusing (writeFile p content) := by
  intro d
  rw [outcome_writeFile]
  cases hl : d.locate true p with
  | error t => exact fun ht => locate_ne_nul h (hl.trans (congrArg _ (Except.error.inj ht)))
  | ok l =>
    dsimp only
    rcases d.get? l with _ | (_ | _ | _) <;> nofun

end Action

namespace Output

open Disk

variable {o : Output} {d d' : Disk} {l : Place}

theorem save_refusing (h : o.path.hasNul = false) : Action.Refusing o.save :=
  (Action.ensureDirectories_refusing (Path.hasNul_parent h)).bind fun _ => Action.writeFile_refusing h _

/-- The text is in its file, and besides only directories above the file have come to be. -/
structure Saved (o : Output) (d d' : Disk) : Prop where
  home : d'.home = d.home
  read : d'.read o.path = .ok o.text.toUTF8
  file : d'.get? (d.placeOf o.path) = some (.file o.text.toUTF8)
  others : ∀ l, l ≠ d.placeOf o.path → d'.get? l = d.get? l ∨
    d.get? l = none ∧ d'.get? l = some .directory ∧ d.LeadsThrough o.path.parent l

/-- Where a directory is after a text was written there was one before, or nothing. -/
theorem get?_of_save_directory (hd : d.Sound) (hl : d.LinkFree) (hs : outcome o.save d = (.ok (), d'))
    (hdir : d'.get? l = some .directory) : d.get? l = some .directory ∨ d.get? l = none := by
  have hg := (save_grows hd hs).1
  cases he : d.get? l with
  | none => exact .inr rfl
  | some e =>
    cases e with
    | directory => exact .inl rfl
    | link t => exact absurd he (hl l t)
    | file content =>
      have hf := hg.file l (by simp [file?, he])
      rw [file?_eq_none_of_directory hdir] at hf
      cases hf

theorem saved_of_save (hd : d.Sound) (hl : d.LinkFree) (hs : outcome o.save d = (.ok (), d')) : o.Saved d d' := by
  obtain ⟨hg, m, hm, hf, -⟩ := save_grows hd hs
  constructor
  case home => exact hg.home
  case read => exact Disk.read_eq_ok_iff.2 ⟨m, hm, hf⟩
  case file =>
    rw [get?_of_save hd hl hs, mark, if_pos rfl]
    rfl
  case others =>
    intro l hne
    have hget := get?_of_save hd hl hs l
    rw [mark, if_neg hne] at hget
    by_cases hway : d.LeadsThrough o.path.parent l
    · rw [if_pos hway] at hget
      rcases get?_of_save_directory hd hl hs hget with hdir | hnone
      · exact .inl (hget.trans hdir.symm)
      · exact .inr ⟨hnone, hget, hway⟩
    · rw [if_neg hway] at hget
      exact .inl hget

theorem addsFolders_of_save_error {t : Trouble} (hd : d.Sound) (hl : d.LinkFree)
    (hs : outcome o.save d = (.error t, d')) : d.AddsFolders [o.path.parent] d' := by
  refine (save_error_adds hd hs).addsFolders hl fun l hway => ?_
  exact save_error_spares hl hs (hway _ (List.mem_singleton_self _))

/-- What comes of writing a text: the answer, or a failure that names the path. In both cases what was there
before is there still, the file of the text excepted if there is an answer. -/
inductive Settles {α : Type} (o : Output) (answer : α) (d : Disk) : Except Failure α × Journal → Prop
  | saved {j : Journal} (h : o.Saved d j.disk) : Settles o answer d (.ok answer, j)
  | refused {j : Journal} (r : Refusal) (h : d.AddsFolders [o.path.parent] j.disk) :
      Settles o answer d (.error (.filesystem (.writeFile r) o.path.text), j)

end Output

namespace Generation

open Disk Output

variable {d : Disk}

theorem settles_writeText {α : Type} {o : Output} (hd : d.Sound) (hl : d.LinkFree) (h : o.path.hasNul = false)
    (answer : α) (events : List Event) :
    Settles o answer d (outcome (do writeText o.path o.text; return answer) ⟨d, events⟩) := by
  rw [outcome_bind, outcome_writeText]
  rcases hs : outcome o.save d with ⟨(r | _) | _, d'⟩
  · exact .refused r (addsFolders_of_save_error hd hl hs)
  · exact absurd (congrArg Prod.fst hs) (save_refusing h d)
  · exact .saved (saved_of_save hd hl hs)

end Generation
end EntityGen
