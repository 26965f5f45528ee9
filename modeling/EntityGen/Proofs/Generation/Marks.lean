import EntityGen.Proofs.Disk.Passable
import EntityGen.Proofs.Generation.Output

/-! What writing texts leaves at every place where there are no links. -/

namespace EntityGen.Output

open Disk

/-- What is put at a place: the text, or a directory above it. -/
def mark (d : Disk) (l : Place) (o : Output) : Option Entry :=
  if l = d.placeOf o.path then some (.file o.text.toUTF8)
  else if d.LeadsThrough o.path.parent l then some .directory
  else none

/-- What is put at a place last. -/
def marks (d : Disk) (l : Place) : List Output → Option Entry
  | [] => none
  | o :: os => (marks d l os).or (mark d l o)

variable {d d' e : Disk} {l : Place} {o : Output} {os : List Output}

theorem mark_congr (h : d'.home = d.home) (l : Place) (o : Output) : mark d' l o = mark d l o := by
  simp only [mark, placeOf_congr h, leadsThrough_congr h]

theorem marks_congr (h : d'.home = d.home) (l : Place) (os : List Output) : marks d' l os = marks d l os := by
  induction os with
  | nil => rfl
  | cons o os ih => rw [marks, marks, ih, mark_congr h]

theorem exists_of_marks (h : (marks d l os).isSome) :
    ∃ o ∈ os, l = d.placeOf o.path ∨ d.LeadsThrough o.path.parent l := by
  induction os with
  | nil => cases h
  | cons o os ih =>
    rw [marks, Option.isSome_or, Bool.or_eq_true] at h
    rcases h with h | h
    · obtain ⟨o', ho', hl⟩ := ih h
      exact ⟨o', List.mem_cons_of_mem o ho', hl⟩
    · refine ⟨o, List.mem_cons_self, ?_⟩
      unfold mark at h
      split at h
      · next heq => exact .inl heq
      · split at h
        · next hway => exact .inr hway
        · cases h

theorem save_eq_ok_iff (hd : d.Sound) (hl : d.LinkFree) : outcome o.save d = (.ok (), d') ↔ ∃ d₁,
    outcome (Action.ensureDirectories o.path.parent) d = (.ok (), d₁) ∧
      d₁.locate true o.path = .ok (d.placeOf o.path) ∧ d₁.get? (d.placeOf o.path) ≠ some .directory ∧
        d' = d₁.put (d.placeOf o.path) (.file o.text.toUTF8) := by
  have hbind : outcome o.save d = (.ok (), d') ↔ ∃ d₁,
      outcome (Action.ensureDirectories o.path.parent) d = (.ok (), d₁) ∧
        outcome (Action.writeFile o.path o.text.toUTF8) d₁ = (.ok (), d') := by
    rw [save, outcome_bind_eq_ok_iff]
    constructor
    · rintro ⟨_, d₁, h⟩
      exact ⟨d₁, h⟩
    · rintro ⟨d₁, h⟩
      exact ⟨(), d₁, h⟩
  rw [hbind]
  refine exists_congr fun d₁ => and_congr_right fun h₁ => ?_
  have ha := Action.adds_of_ensureDirectories hd h₁
  rw [Action.outcome_writeFile]
  cases hm : d₁.locate true o.path with
  | error t => simp
  | ok m =>
    have hplace := (ha.linkFree hl).locate_eq_placeOf hm
    rw [placeOf_congr ha.home] at hplace
    subst hplace
    dsimp only
    by_cases hdir : d₁.get? (d.placeOf o.path) = some .directory
    · simp [hdir]
    · split
      · contradiction
      · simp [hdir, eq_comm]

theorem get?_of_save (hd : d.Sound) (hl : d.LinkFree) (hs : outcome o.save d = (.ok (), d')) (l : Place) :
    d'.get? l = (mark d l o).or (d.get? l) := by
  obtain ⟨d₁, h₁, hm, hdir, rfl⟩ := (save_eq_ok_iff hd hl).1 hs
  rw [mark]
  split
  · next heq =>
    subst heq
    apply get?_put_self
    intro hroot
    rw [hroot] at hdir
    exact hdir rfl
  · next hne =>
    rw [get?_put_of_ne _ hne, Action.get?_of_ensureDirectories hd hl h₁]
    split <;> rfl

/-- Every place holds what was put there last, or else what it held before. -/
theorem get?_of_forM_save (hd : d.Sound) (hl : d.LinkFree) (hs : outcome (os.forM save) d = (.ok (), d'))
    (l : Place) : d'.get? l = (marks d l os).or (d.get? l) := by
  induction os generalizing d with
  | nil =>
    cases hs
    rfl
  | cons o os ih =>
    obtain ⟨d₁, h₁, hs⟩ := outcome_forM_cons_eq_ok_iff.1 hs
    have hg := (save_grows hd h₁).1
    rw [ih hg.sound (hg.linkFree hl) hs, get?_of_save hd hl h₁, marks, marks_congr hg.home, Option.or_assoc]

/-- A text can be written if its path is not too long, no file is on the way to it, and it neither goes to a
directory nor to a place that its own way leads through. -/
structure Savable (d : Disk) (p : Path) : Prop where
  proper : IsProper p
  passable : d.Passable p.parent
  apart : ¬ d.LeadsThrough p.parent (d.placeOf p)
  free : d.get? (d.placeOf p) ≠ some .directory

theorem exists_save_iff (hd : d.Sound) (hl : d.LinkFree) :
    (∃ d', outcome o.save d = (.ok (), d')) ↔ Savable d o.path := by
  simp only [save_eq_ok_iff hd hl]
  constructor
  · rintro ⟨d', d₁, h₁, hm, hdir, _⟩
    have ha := Action.adds_of_ensureDirectories hd h₁
    have hparent := Action.isDirectory_of_ensureDirectories hd hl h₁
    refine ⟨isProper_of_locate ha.sound (ha.linkFree hl) hparent hm,
      (Action.ensureDirectories_ok_iff hd hl).1 ⟨d₁, h₁⟩, fun hway => hdir ?_, fun hfree => hdir ?_⟩
    · rw [Action.get?_of_ensureDirectories hd hl h₁, if_pos hway]
    · exact ha.directory _ hfree
  · intro h
    obtain ⟨d₁, h₁⟩ := (Action.ensureDirectories_ok_iff hd hl).2 h.passable
    have ha := Action.adds_of_ensureDirectories hd h₁
    have hloc : d₁.locate true o.path = .ok (d₁.placeOf o.path) :=
      locate_of_parent ha.sound (ha.linkFree hl) h.proper (Action.isDirectory_of_ensureDirectories hd hl h₁)
    rw [placeOf_congr ha.home] at hloc
    refine ⟨_, d₁, h₁, hloc, ?_, rfl⟩
    rw [Action.get?_of_ensureDirectories hd hl h₁, if_neg h.apart]
    exact h.free

theorem isDirectory_of_forM_save (hd : d.Sound) (hl : d.LinkFree) (hs : outcome (os.forM save) d = (.ok (), d')) :
    ∀ o ∈ os, d'.isDirectory o.path.parent = .ok true := by
  induction os generalizing d with
  | nil => nofun
  | cons o os ih =>
    obtain ⟨d₁, h₁, hs⟩ := outcome_forM_cons_eq_ok_iff.1 hs
    have hg₁ := (save_grows hd h₁).1
    refine List.forall_mem_cons.2 ⟨?_, ih hg₁.sound (hg₁.linkFree hl) hs⟩
    obtain ⟨_, d₀, h₀, hw⟩ := outcome_bind_eq_ok_iff.1 h₁
    have ha := Action.adds_of_ensureDirectories hd h₀
    obtain ⟨_, _, hg₀, _⟩ := Action.writeFile_grows ha.sound hw
    apply (forM_save hg₁.sound hs).1.isDirectory
    exact hg₀.isDirectory (Action.isDirectory_of_ensureDirectories hd hl h₀)

/-- What made `d` come to `d'` meets nothing on `e` that is in its way. -/
structure Ready (d d' e : Disk) : Prop where
  sound : e.Sound
  linkFree : e.LinkFree
  home : e.home = d.home
  start : d.get? d.home = some .directory → e.get? d.home = some .directory
  directory : ∀ l, d'.get? l = some .directory → e.file? l = none
  file : ∀ l, (d'.file? l).isSome → e.get? l ≠ some .directory

section Again

variable {d₁ e₁ : Disk} {e₀ : Entry} (h : Ready d d' e) (hd : d.Sound) (hl : d.LinkFree)
  (hs : outcome o.save d = (.ok (), d₁)) (hg : d₁.Grows d')

include hd hl hs hg

/-- What is put somewhere stays what it is until the end. -/
theorem kept_of_mark (hm : mark d l o = some e₀) :
    (e₀ = .directory ∧ d'.get? l = some .directory) ∨ ∃ c, e₀ = .file c ∧ (d'.file? l).isSome := by
  have hd₁ : d₁.get? l = some e₀ := by
    rw [get?_of_save hd hl hs, hm]
    rfl
  cases e₀ with
  | directory => exact .inl ⟨rfl, hg.directory l hd₁⟩
  | file c => exact .inr ⟨c, rfl, hg.file l (by simp [file?, hd₁])⟩
  | link t => exact absurd hd₁ ((save_grows hd hs).1.linkFree hl l t)

include h

theorem Ready.savable : Savable e o.path := by
  have hsave := (exists_save_iff hd hl).1 ⟨d₁, hs⟩
  refine ⟨hsave.proper, ⟨hsave.passable.proper, ?_, fun l hway => ?_⟩, ?_, ?_⟩
  · have hstart := hsave.passable.start
    rw [start_congr h.home]
    unfold Disk.start at hstart ⊢
    split
    · rfl
    · next hrel =>
      rw [if_neg hrel] at hstart
      exact h.start hstart
  · rw [leadsThrough_congr h.home] at hway
    have hne : l ≠ d.placeOf o.path := by
      rintro rfl
      exact hsave.apart hway
    have hm : mark d l o = some .directory := by rw [mark, if_neg hne, if_pos hway]
    rcases kept_of_mark hd hl hs hg hm with ⟨_, hdir⟩ | ⟨c, hc, _⟩
    · exact h.directory l hdir
    · cases hc
  · rw [placeOf_congr h.home, leadsThrough_congr h.home]
    exact hsave.apart
  · rw [placeOf_congr h.home]
    have hm : mark d (d.placeOf o.path) o = some (.file o.text.toUTF8) := by rw [mark, if_pos rfl]
    rcases kept_of_mark hd hl hs hg hm with ⟨hc, _⟩ | ⟨c, _, hf⟩
    · cases hc
    · exact h.file _ hf

theorem Ready.save (hse : outcome o.save e = (.ok (), e₁)) : Ready d₁ d' e₁ := by
  have hg₁ := (save_grows hd hs).1
  have hge := (save_grows h.sound hse).1
  have hgete : ∀ l, e₁.get? l = (mark d l o).or (e.get? l) := by
    intro l
    rw [get?_of_save h.sound h.linkFree hse, mark_congr h.home]
  refine ⟨hge.sound, hge.linkFree h.linkFree, ?_, fun hstart => ?_, fun l hdir => ?_, fun l hfile => ?_⟩
  · rw [hge.home, h.home, hg₁.home]
  · rw [hg₁.home] at hstart ⊢
    rw [get?_of_save hd hl hs] at hstart
    rw [hgete]
    cases hm : mark d d.home o with
    | none =>
      rw [hm] at hstart
      exact h.start hstart
    | some e₀ => rwa [hm] at hstart
  · rw [file?, hgete]
    cases hm : mark d l o with
    | none => exact h.directory l hdir
    | some e₀ =>
      rcases kept_of_mark hd hl hs hg hm with ⟨rfl, _⟩ | ⟨c, _, hf⟩
      · rfl
      · rw [file?_eq_none_of_directory hdir] at hf
        cases hf
  · rw [hgete]
    cases hm : mark d l o with
    | none => exact h.file l hfile
    | some e₀ =>
      rcases kept_of_mark hd hl hs hg hm with ⟨_, hdir⟩ | ⟨c, rfl, _⟩
      · rw [file?_eq_none_of_directory hdir] at hfile
        cases hfile
      · simp

end Again

/-- Texts that could be written once can be written again. -/
theorem exists_forM_save (hd : d.Sound) (hl : d.LinkFree) (hs : outcome (os.forM save) d = (.ok (), d'))
    (h : Ready d d' e) : ∃ e', outcome (os.forM save) e = (.ok (), e') := by
  induction os generalizing d e with
  | nil => exact ⟨e, rfl⟩
  | cons o os ih =>
    obtain ⟨d₁, h₁, hs⟩ := outcome_forM_cons_eq_ok_iff.1 hs
    have hg₁ := (save_grows hd h₁).1
    have hg := (forM_save hg₁.sound hs).1
    obtain ⟨e₁, he₁⟩ := (exists_save_iff h.sound h.linkFree).2 (h.savable hd hl h₁ hg)
    obtain ⟨e', he'⟩ := ih hg₁.sound (hg₁.linkFree hl) hs (h.save hd hl h₁ hg he₁)
    exact ⟨e', outcome_forM_cons_eq_ok_iff.2 ⟨e₁, he₁, he'⟩⟩

end EntityGen.Output
