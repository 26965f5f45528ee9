import EntityGen.Proofs.Cleaning.Sweep
import EntityGen.Proofs.Config.Completion
import EntityGen.Proofs.Generation.Marks
import EntityGen.Proofs.Generation.Prepared
import EntityGen.Proofs.Generation.Success

/-! What a run leaves at every place where there are no links. -/

namespace EntityGen.Generation

open Disk

variable {s : Setting} {c r : Config} {folder p : Path} {ps : List Path} {d d₁ d' : Disk} {l : Place} {n : Nat}
  {events : List Event} {j : Journal} {sm : Summary} {calls : List Call} {rs : List Report}

theorem get?_of_makeFolders (hd : d.Sound) (hl : d.LinkFree) (h : outcome (makeFolders ps) d = (.ok (), d'))
    (l : Place) : d'.get? l = if ∃ p ∈ ps, d.LeadsThrough p l then some .directory else d.get? l := by
  induction ps generalizing d with
  | nil =>
    cases h
    simp
  | cons p ps ih =>
    obtain ⟨d₁, h₁, h⟩ := outcome_forM_cons_eq_ok_iff.1 h
    have ha := Action.adds_of_ensureDirectories hd h₁
    rw [ih ha.sound (ha.linkFree hl) h, Action.get?_of_ensureDirectories hd hl h₁]
    simp only [leadsThrough_congr ha.home, List.mem_cons, exists_eq_or_imp]
    split
    · next hps => rw [if_pos (.inr hps)]
    · next hps => simp [hps]

theorem parent_mem_folders {file : Path} (h : c.contextFolder = some file.parent) (folder : Path) :
    file.parent ∈ folders c folder := by
  simp [folders, h]

theorem context_mem_outputs {file : Path} (hc : c.createContext = true) (hf : c.contextFile = some file) :
    (⟨file, contextText c (artifacts s c rs)⟩ : Output) ∈ outputs s c rs := by
  simp [outputs, contextOutput_of_context hc hf]

theorem locate_of_answers {file : Path} (hd : d.Sound) (hl : d.LinkFree) (hp : d.isDirectory file.parent = .ok true)
    (hf : (d.file? (d.placeOf file)).isSome) (ha : ∃ b, d.isFile file = .ok b) :
    d.locate true file = .ok (d.placeOf file) := by
  rcases locate_file hd hl hp hf with hloc | hloc
  · exact hloc
  · exact absurd hloc (exists_test_iff.1 ha)

/-- What the texts are written to, once the folders are made. -/
def prepared (c : Config) (folder : Path) (d : Disk) : Disk :=
  if c.clean then Cleaning.swept d folder c.contextFile else d

def cleaned (c : Config) (folder : Path) (d : Disk) : Nat :=
  if c.clean then Cleaning.freed d folder c.contextFile else 0

/-- What cleaning takes away if the configuration says so. -/
def Stale (c : Config) (folder : Path) (d : Disk) (l : Place) : Prop :=
  c.clean = true ∧ Cleaning.Cleanable d folder c.contextFile l

theorem get?_prepared_of_stale (hl : d.LinkFree) (h : Stale c folder d l) : (prepared c folder d).get? l = none := by
  rw [prepared, if_pos h.1]
  exact Cleaning.get?_swept_of_cleanable hl h.2

theorem get?_prepared_of_not_stale (hl : d.LinkFree) (h : ¬ Stale c folder d l) :
    (prepared c folder d).get? l = d.get? l := by
  rw [prepared]
  split
  · next hc => exact Cleaning.get?_swept_of_not_cleanable hl fun hclean => h ⟨hc, hclean⟩
  · rfl

theorem prepare_eq_ok_iff_prepared (hd : d.Sound) (hl : d.LinkFree) :
    outcome (prepare c folder) ⟨d, events⟩ = (.ok n, j) ↔ ∃ d₁,
      outcome (makeFolders (folders c folder)) d = (.ok (), d₁) ∧
        (c.clean = true → Cleaning.Sweepable d₁ folder c.contextFile) ∧
          n = cleaned c folder d₁ ∧ j = ⟨prepared c folder d₁, events⟩ := by
  rw [prepare_eq_ok_iff_makeFolders]
  refine exists_congr fun d₁ => and_congr_right fun h => ?_
  have ha := makeFolders_adds hd _ h
  cases hc : c.clean with
  | false => simp [cleaned, prepared, hc, eq_comm]
  | true =>
    simp only [if_true, Cleaning.cleanOutput_eq_ok_iff ha.sound (ha.linkFree hl), cleaned, prepared, hc,
      forall_true_left]

/-- The folders are made, and can be swept if the configuration says so. -/
structure Opens (c : Config) (folder : Path) (d d₁ : Disk) : Prop where
  made : outcome (makeFolders (folders c folder)) d = (.ok (), d₁)
  sweepable : c.clean = true → Cleaning.Sweepable d₁ folder c.contextFile

/-- The phases of a run: the folders are opened, the catalog tells about the databases, and the texts are
written. -/
structure Phases (s : Setting) (c : Config) (folder : Path) (calls : List Call) (rs : List Report)
    (d d₁ d' : Disk) : Prop extends Opens c folder d d₁ where
  told : survey s c calls c.databases = .ok rs
  context : c.createContext = true → c.contextFile.isSome
  written : outcome ((outputs s c rs).forM Output.save) (prepared c folder d₁) = (.ok (), d')

theorem run_eq_ok_iff_phases (hr : c.complete = .ok r) (hm : r.modelsFolder = some folder) (hd : d.Sound)
    (hl : d.LinkFree) : outcome (run s c) ⟨d, events⟩ = (.ok sm, j) ↔ ∃ d₁ rs,
      Phases s r folder (Journal.mk d events).calls rs d d₁ j.disk ∧ sm = summary s r rs (cleaned r folder d₁) ∧
        j.events = events ++ [.prepared (cleaned r folder d₁)] ++ rs.flatMap (databaseEvents s r) ++
          contextEvents r (artifacts s r rs) := by
  rw [run_eq_ok_iff]
  constructor
  · rintro ⟨r', folder', hr', hm', h⟩
    cases hr.symm.trans hr'
    cases hm.symm.trans hm'
    obtain ⟨_, _, rs, d', hp, hs, hc, ho, rfl, rfl⟩ := runCompleted_eq_ok_iff.1 h
    obtain ⟨d₁, h₁, hsweep, rfl, rfl⟩ := (prepare_eq_ok_iff_prepared hd hl).1 hp
    exact ⟨d₁, rs, ⟨⟨h₁, hsweep⟩, hs, hc, ho⟩, rfl, rfl⟩
  · rintro ⟨d₁, rs, h, rfl, he⟩
    refine ⟨r, folder, hr, hm, runCompleted_eq_ok_iff.2 ⟨_, _, rs, j.disk,
      (prepare_eq_ok_iff_prepared hd hl).2 ⟨d₁, h.made, h.sweepable, rfl, rfl⟩, h.told, h.context, h.written,
      rfl, ?_⟩⟩
    rw [← he]

theorem exists_run (hr : c.complete = .ok r) (hm : r.modelsFolder = some folder)
    (hp : (outcome (prepare r folder) ⟨d, []⟩).1 = .ok n) (hs : survey s r [] r.databases = .ok rs)
    (hw : (outcome ((outputs s r rs).forM Output.save) (outcome (prepare r folder) ⟨d, []⟩).2.disk).1 = .ok ()) :
    ∃ sm j, outcome (run s c) ⟨d, []⟩ = (.ok sm, j) := by
  have hsilent : (outcome (prepare r folder) ⟨d, []⟩).2.events = [] := prepare_silent _ rfl
  rcases hprep : outcome (prepare r folder) ⟨d, []⟩ with ⟨_ | _, j₁⟩
  · rw [hprep] at hp
    cases hp
  · rw [hprep] at hp hw hsilent
    cases hp
    rcases hwrite : outcome ((outputs s r rs).forM Output.save) j₁.disk with ⟨_ | _, d'⟩
    · rw [hwrite] at hw
      cases hw
    · have hsurvey : survey s r j₁.calls r.databases = .ok rs := by
        rw [Journal.calls, hsilent]
        exact hs
      have hc := (Config.completes_of_complete hr).contextFile
      exact ⟨_, _, run_eq_ok_iff.2 ⟨r, folder, hr, hm,
        runCompleted_eq_ok_iff.2 ⟨_, _, rs, d', hprep, hsurvey, hc, hwrite, rfl, rfl⟩⟩⟩

namespace Opens

variable (h : Opens c folder d d₁) (hd : d.Sound) (hl : d.LinkFree)

include h hd

theorem adds : d.Adds d₁ := makeFolders_adds hd _ h.made

include hl

theorem get?_made (l : Place) :
    d₁.get? l = if ∃ p ∈ folders c folder, d.LeadsThrough p l then some .directory else d.get? l :=
  get?_of_makeFolders hd hl h.made l

theorem isDirectory (hp : p ∈ folders c folder) : d₁.isDirectory p = .ok true :=
  isDirectory_of_makeFolders hd hl h.made hp

theorem isDirectory_folder : d₁.isDirectory folder = .ok true := h.isDirectory hd hl List.mem_cons_self

theorem loses : d₁.Loses (Stale c folder d₁) (prepared c folder d₁) := by
  have ha := h.adds hd
  rw [prepared]
  split
  · next hc =>
    have hloses := Cleaning.loses_swept ha.sound (ha.linkFree hl) (h.sweepable hc)
    exact ⟨hloses.sound, hloses.home, fun l => (hloses.get? l).imp_right fun hg => ⟨hg.1, hc, hg.2⟩⟩
  · exact .refl ha.sound

theorem linkFree_prepared : (prepared c folder d₁).LinkFree := (h.loses hd hl).linkFree ((h.adds hd).linkFree hl)

theorem home_prepared : (prepared c folder d₁).home = d.home := (h.loses hd hl).home.trans (h.adds hd).home

/-- What is taken away is known by its place. -/
theorem stale_iff (hcontext : ∀ file, c.contextFile = some file → c.contextFolder = some file.parent) :
    Stale c folder d₁ l ↔ c.clean = true ∧
      ((∃ file, c.contextFile = some file ∧ l = d.placeOf file ∧ (d.file? l).isSome) ∨
        d.placeOf folder <+: l ∧ l ≠ d.placeOf folder) := by
  have ha := h.adds hd
  have hl₁ := ha.linkFree hl
  rw [Stale]
  refine and_congr_right fun hc => ?_
  rw [Cleaning.cleanable_iff hl₁, Cleaning.mem_contextPlaces_iff, placeOf_congr ha.home, ha.same]
  simp only [h.isDirectory_folder hd hl, true_and]
  apply or_congr_left
  refine exists_congr fun file => and_congr_right fun hfile => and_congr_left fun hf => ?_
  constructor
  · intro hloc
    rw [hl₁.locate_eq_placeOf hloc, placeOf_congr ha.home]
  · rintro rfl
    have hparent := h.isDirectory hd hl (parent_mem_folders (hcontext file hfile) folder)
    rw [← placeOf_congr ha.home] at hf ⊢
    rw [← ha.same] at hf
    exact locate_of_answers ha.sound hl₁ hparent hf ((h.sweepable hc).contextAnswers file hfile)

/-- The directories that are made are asked about before they are swept. -/
theorem fits_of_leadsThrough (hc : c.clean = true) (hway : ∃ p ∈ folders c folder, d.LeadsThrough p l)
    (hb : d.placeOf folder <+: l) (hne : l ≠ d.placeOf folder) : Fits folder (l.drop (d.placeOf folder).length) := by
  have hdir : d₁.get? l = some .directory := by rw [h.get?_made hd hl, if_pos hway]
  have hfits := (h.sweepable hc).fits (h.isDirectory_folder hd hl)
  rw [placeOf_congr (h.adds hd).home] at hfits
  refine hfits l (mem_placesBelow_iff_below.2 ⟨hb, hne, ?_⟩)
  rw [(directory_withoutFiles _ _ _).2 hdir]
  rfl

theorem stale_of_below (hc : c.clean = true) (hb : d.placeOf folder <+: l) (hne : l ≠ d.placeOf folder) :
    Stale c folder d₁ l := by
  have ha := h.adds hd
  refine ⟨hc, (Cleaning.cleanable_iff (ha.linkFree hl)).2 (.inr ⟨h.isDirectory_folder hd hl, ?_⟩)⟩
  rw [placeOf_congr ha.home]
  exact ⟨hb, hne⟩

/-- A directory that was there is taken away only below the folder. -/
theorem below_of_stale (hs : Stale c folder d₁ l) (hdir : d₁.get? l = some .directory) :
    d.placeOf folder <+: l ∧ l ≠ d.placeOf folder := by
  have ha := h.adds hd
  rcases (Cleaning.cleanable_iff (ha.linkFree hl)).1 hs.2 with hcontext | ⟨_, hb⟩
  · have hfile := Cleaning.file_of_mem_contextPlaces hcontext
    rw [file?_eq_none_of_directory hdir] at hfile
    cases hfile
  · rwa [placeOf_congr ha.home] at hb

theorem get?_prepared_folder : (prepared c folder d₁).get? (d.placeOf folder) = some .directory := by
  have ha := h.adds hd
  have hf := Cleaning.folderAt_of_isDirectory ha.sound (ha.linkFree hl) (h.isDirectory_folder hd hl)
  have hdir := hf.directory
  rw [placeOf_congr ha.home] at hdir
  rw [get?_prepared_of_not_stale hf.linkFree, hdir]
  exact fun hs => (h.below_of_stale hd hl hs hdir).2 rfl

theorem isDirectory_prepared (hn : ".." ∉ folder.names) : (prepared c folder d₁).isDirectory folder = .ok true := by
  have ha := h.adds hd
  rw [prepared]
  split
  · next hc =>
    rw [Cleaning.isDirectory_swept ha.sound (ha.linkFree hl) (h.sweepable hc) hn]
    exact h.isDirectory_folder hd hl
  · exact h.isDirectory_folder hd hl

end Opens

namespace Phases

variable (h : Phases s c folder calls rs d d₁ d') (hd : d.Sound) (hl : d.LinkFree)

include h hd hl

theorem grows : (prepared c folder d₁).Grows d' := (Output.forM_save (h.loses hd hl).sound h.written).1

theorem sound : d'.Sound := (h.grows hd hl).sound

theorem home : d'.home = d.home := (h.grows hd hl).home.trans (h.home_prepared hd hl)

theorem linkFree : d'.LinkFree := (h.grows hd hl).linkFree (h.linkFree_prepared hd hl)

theorem isDirectory_after (hn : ".." ∉ folder.names) : d'.isDirectory folder = .ok true :=
  (h.grows hd hl).isDirectory (h.isDirectory_prepared hd hl hn)

/-- Every place holds what was put there last, or else what preparing left there. -/
theorem get?_eq (l : Place) : d'.get? l = (Output.marks d l (outputs s c rs)).or ((prepared c folder d₁).get? l) := by
  rw [Output.get?_of_forM_save (h.loses hd hl).sound (h.linkFree_prepared hd hl) h.written,
    Output.marks_congr (h.home_prepared hd hl)]

/-- After a run that cleans, all that is below the folder was written, or is a directory above what was. -/
theorem exists_output_of_below (hc : c.clean = true) (hb : d'.Below (d'.placeOf folder) l) :
    ∃ o ∈ outputs s c rs, l = d.placeOf o.path ∨ d.LeadsThrough o.path.parent l := by
  rw [placeOf_congr (h.home hd hl)] at hb
  apply Output.exists_of_marks
  have hp := hb.present
  rwa [h.get?_eq hd hl, get?_prepared_of_stale ((h.adds hd).linkFree hl)
    (h.stale_of_below hd hl hc hb.isPrefix hb.ne), Option.or_none] at hp

end Phases
end EntityGen.Generation
