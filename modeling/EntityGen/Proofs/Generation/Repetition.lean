import EntityGen.Proofs.Generation.Phases
import EntityGen.Proofs.Generation.Stale

/-! What a second run with the same configuration and the same snapshot does. -/

namespace EntityGen.Generation

open Disk

variable {s s' : Setting} {c r : Config} {folder : Path} {d d₁ d₂ d' d'' : Disk} {l : Place}
  {calls calls' : List Call} {rs rs' : List Report}

/-- A disk with what was generated can be cleaned again: the folder of a context that was not written can be made,
and no path through the folder of the models is too long but that of the context's file. -/
structure Reopens (c : Config) (folder : Path) (d : Disk) : Prop where
  contextFolder : c.createContext = false → ∀ p, c.contextFolder = some p → d.Passable p
  fits : ∀ l, d.Below (d.placeOf folder) l →
    (∀ file, c.contextFile = some file → l = d.placeOf file → d.file? l = none) →
      Fits folder (l.drop (d.placeOf folder).length)

namespace Phases

variable (h : Phases s c folder calls rs d d₁ d') (hd : d.Sound) (hl : d.LinkFree)

include h hd hl

/-- The folder of the models is still there, so that only the folder of the context may be in need of making. -/
theorem exists_makeFolders_again_iff (hn : ".." ∉ folder.names) :
    (∃ d₂, outcome (makeFolders (folders c folder)) d' = (.ok (), d₂)) ↔
      ∀ p, c.contextFolder = some p → d'.Passable p := by
  have hkept := Action.outcome_ensureDirectories_of_isDirectory (h.linkFree hd hl) (h.isDirectory_after hd hl hn)
  have hiff : ∀ d₂, outcome (makeFolders (folders c folder)) d' = (.ok (), d₂) ↔
      outcome (makeFolders c.contextFolder.toList) d' = (.ok (), d₂) := by
    intro d₂
    rw [makeFolders, folders, outcome_forM_cons, hkept]
    rfl
  simp only [hiff]
  cases hc : c.contextFolder with
  | none => simp [makeFolders]
  | some p =>
    simp only [Option.toList_some, makeFolders, outcome_forM_cons_eq_ok_iff, Option.some.injEq, forall_eq']
    rw [← Action.ensureDirectories_ok_iff (h.sound hd hl) (h.linkFree hd hl)]
    constructor
    · rintro ⟨_, d₂, hp, _⟩
      exact ⟨d₂, hp⟩
    · rintro ⟨d₂, hp⟩
      exact ⟨d₂, d₂, hp, rfl⟩

theorem folders_again (h₂ : outcome (makeFolders (folders c folder)) d' = (.ok (), d₂)) (l : Place) :
    d₂.get? l = if ∃ p ∈ folders c folder, d.LeadsThrough p l then some .directory else d'.get? l := by
  rw [get?_of_makeFolders (h.sound hd hl) (h.linkFree hd hl) h₂]
  simp only [leadsThrough_congr (h.home hd hl)]

/-- What was generated is not in the way when it is generated again. -/
theorem ready_again (h₂ : Opens c folder d' d₂) :
    Output.Ready (prepared c folder d₁) d' (prepared c folder d₂) := by
  have hd' := h.sound hd hl
  have hl' := h.linkFree hd hl
  have hloses := h₂.loses hd' hl'
  have hadds := h₂.adds hd'
  have home := h.home_prepared hd hl
  refine ⟨hloses.sound, h₂.linkFree_prepared hd' hl', ?_, fun hstart => ?_, fun l hdir => ?_, fun l hfile => ?_⟩
  · rw [h₂.home_prepared hd' hl', h.home hd hl, home]
  · have hdir : d₂.get? (prepared c folder d₁).home = some .directory :=
      hadds.directory _ ((h.grows hd hl).directory _ hstart)
    rw [get?_prepared_of_not_stale (hadds.linkFree hl'), hdir]
    intro hs
    have hb := h₂.below_of_stale hd' hl' hs hdir
    rw [placeOf_congr (h.home hd hl)] at hb
    rw [get?_prepared_of_stale ((h.adds hd).linkFree hl) (h.stale_of_below hd hl hs.1 hb.1 hb.2)] at hstart
    cases hstart
  · have hdir₂ := hadds.directory l hdir
    rcases hloses.get? l with hg | ⟨hg, _⟩
    · rw [file?, hg, hdir₂]
    · rw [file?, hg]
  · rw [← hadds.same] at hfile
    intro hdir
    rw [file?_eq_none_of_directory (hloses.get?_eq hdir)] at hfile
    cases hfile

variable (hcontext : ∀ file, c.contextFile = some file → c.contextFolder = some file.parent)

include hcontext

/-- Where cleaning does not take the folder of the context away, or the context is written, it is there. -/
theorem passable_contextFolder (hp : c.clean = true → c.createContext = false →
    ∀ p, c.contextFolder = some p → d'.Passable p) : ∀ p, c.contextFolder = some p → d'.Passable p := by
  intro p hf
  cases hc : c.clean with
  | false =>
    have hkept : prepared c folder d₁ = d₁ := by simp [prepared, hc]
    have hdir : d₁.isDirectory p = .ok true := h.isDirectory hd hl (by simp [folders, hf])
    rw [← hkept] at hdir
    exact .of_isDirectory (h.linkFree hd hl) ((h.grows hd hl).isDirectory hdir)
  | true =>
    cases hcreate : c.createContext with
    | false => exact hp hc hcreate p hf
    | true =>
      obtain ⟨file, hfile⟩ := Option.isSome_iff_exists.1 (h.context hcreate)
      cases (hcontext file hfile).symm.trans hf
      exact .of_isDirectory (h.linkFree hd hl) (Output.isDirectory_of_forM_save (h.loses hd hl).sound
        (h.linkFree_prepared hd hl) h.written _ (context_mem_outputs hcreate hfile))

/-- Where nothing is written, preparing a second time leaves what it left the first time. -/
theorem prepared_again (h₂ : Opens c folder d' d₂) (hm : Output.marks d l (outputs s c rs) = none) :
    (prepared c folder d₂).get? l = (prepared c folder d₁).get? l := by
  have hl₁ := (h.adds hd).linkFree hl
  have hl₂ := (h₂.adds (h.sound hd hl)).linkFree (h.linkFree hd hl)
  have hget : d'.get? l = (prepared c folder d₁).get? l := by
    rw [h.get?_eq hd hl, hm]
    rfl
  have hget₂ := h.folders_again hd hl h₂.made l
  have hstale₁ := h.stale_iff (l := l) hd hl hcontext
  have hstale₂ := h₂.stale_iff (l := l) (h.sound hd hl) (h.linkFree hd hl) hcontext
  simp only [placeOf_congr (h.home hd hl)] at hstale₂
  by_cases hs₁ : Stale c folder d₁ l
  · rw [get?_prepared_of_stale hl₁ hs₁] at hget ⊢
    by_cases hs₂ : Stale c folder d₂ l
    · exact get?_prepared_of_stale hl₂ hs₂
    · rw [get?_prepared_of_not_stale hl₂ hs₂, hget₂, hget]
      split
      · next hway =>
        -- A directory that is made is stale because it is below the folder.
        have hdir : d₁.get? l = some .directory := by rw [h.get?_made hd hl, if_pos hway]
        exact absurd (hstale₂.2 ⟨hs₁.1, .inr (h.below_of_stale hd hl hs₁ hdir)⟩) hs₂
      · rfl
  · rw [get?_prepared_of_not_stale hl₁ hs₁] at hget ⊢
    have hs₂ : ¬ Stale c folder d₂ l := by
      intro hs₂
      refine hs₁ (hstale₁.2 ?_)
      obtain ⟨hc, ⟨file, hfile, rfl, hf⟩ | hb⟩ := hstale₂.1 hs₂
      · refine ⟨hc, .inl ⟨file, hfile, rfl, ?_⟩⟩
        rwa [file?, hget, ← file?, (h.adds hd).same] at hf
      · exact ⟨hc, .inr hb⟩
    rw [get?_prepared_of_not_stale hl₂ hs₂, hget₂]
    split
    · next hway => rw [h.get?_made hd hl, if_pos hway]
    · exact hget

/-- A second run that succeeds with the same texts leaves everything as it was. -/
theorem get?_again (h' : Phases s' c folder calls' rs' d' d₂ d'') (ho : outputs s' c rs' = outputs s c rs)
    (l : Place) : d''.get? l = d'.get? l := by
  rw [h'.get?_eq (h.sound hd hl) (h.linkFree hd hl), ho, Output.marks_congr (h.home hd hl), h.get?_eq hd hl]
  cases hm : Output.marks d l (outputs s c rs) with
  | some e => rfl
  | none => exact h.prepared_again hd hl hcontext h'.toOpens hm

section Made

variable (h₂ : outcome (makeFolders (folders c folder)) d' = (.ok (), d₂))

include h₂

/-- Both times the folder of the context is there when its file is asked about. -/
theorem contextAnswers_again (hc : c.clean = true) : Cleaning.ContextAnswers d₂ c.contextFile := by
  intro file hfile
  have ha₁ := h.adds hd
  have ha := makeFolders_adds (h.sound hd hl) _ h₂
  have hparent := parent_mem_folders (hcontext file hfile) folder
  exact exists_test_of_parent ha₁.sound (ha₁.linkFree hl) ha.sound (ha.linkFree (h.linkFree hd hl))
    (h.isDirectory hd hl hparent) (isDirectory_of_makeFolders (h.sound hd hl) (h.linkFree hd hl) h₂ hparent)
    ((h.sweepable hc).contextAnswers file hfile)

theorem mem_contextPlaces_again (hc : c.clean = true) {file : Path} (hfile : c.contextFile = some file)
    (hf : (d₂.file? (d₂.placeOf file)).isSome) : d₂.placeOf file ∈ Cleaning.contextPlaces d₂ c.contextFile := by
  have ha := makeFolders_adds (h.sound hd hl) _ h₂
  have hparent := isDirectory_of_makeFolders (h.sound hd hl) (h.linkFree hd hl) h₂
    (parent_mem_folders (hcontext file hfile) folder)
  have hloc := locate_of_answers ha.sound (ha.linkFree (h.linkFree hd hl)) hparent hf
    (h.contextAnswers_again hd hl hcontext h₂ hc file hfile)
  exact Cleaning.mem_contextPlaces_iff.2 ⟨file, hfile, hloc, hf⟩

theorem sweepable_again_iff (hn : ".." ∉ folder.names) (hc : c.clean = true) :
    Cleaning.Sweepable d₂ folder c.contextFile ↔ ∀ l, d'.Below (d'.placeOf folder) l →
      (∀ file, c.contextFile = some file → l = d'.placeOf file → d'.file? l = none) →
        Fits folder (l.drop (d'.placeOf folder).length) := by
  have ha := makeFolders_adds (h.sound hd hl) _ h₂
  have hl₂ := ha.linkFree (h.linkFree hd hl)
  have hfolder := isDirectory_of_makeFolders (h.sound hd hl) (h.linkFree hd hl) h₂ (p := folder) List.mem_cons_self
  constructor
  · intro hs l hb hother
    have hfits := hs.fits hfolder
    rw [placeOf_congr ha.home] at hfits
    refine hfits l (Cleaning.mem_placesBelow_rest_iff.2 ⟨⟨hb.isPrefix, hb.ne, ha.get?_isSome hb.present⟩, ?_⟩)
    rw [Cleaning.mem_contextPlaces_iff]
    rintro ⟨file, hfile, hloc, hf⟩
    have hplace := hl₂.locate_eq_placeOf hloc
    rw [placeOf_congr ha.home] at hplace
    rw [ha.same, hother file hfile hplace] at hf
    cases hf
  · intro hfits
    refine ⟨h.contextAnswers_again hd hl hcontext h₂ hc, ⟨true, hfolder⟩, fun _ l hmem => ?_,
      Cleaning.not_undercut_of_notMem hl₂ hn⟩
    obtain ⟨hb, hother⟩ := Cleaning.mem_placesBelow_rest_iff.1 hmem
    obtain ⟨e, he⟩ := Option.isSome_iff_exists.1 hb.present
    rw [h.folders_again hd hl h₂] at he
    rw [placeOf_congr ha.home] at hb ⊢
    split at he
    · next hway =>
      rw [placeOf_congr (h.home hd hl)] at hb ⊢
      exact h.fits_of_leadsThrough hd hl hc hway hb.isPrefix hb.ne
    · refine hfits l ⟨hb.isPrefix, hb.ne, by simp [he]⟩ fun file hfile hplace => ?_
      rw [← Option.not_isSome_iff_eq_none, ← ha.same]
      intro hf
      rw [hplace, ← placeOf_congr ha.home] at hf hother
      exact hother (h.mem_contextPlaces_again hd hl hcontext h₂ hc hfile hf)

end Made

/-- A second run that is told the same succeeds unless cleaning has left something in the way. -/
theorem exists_again_iff (hn : ".." ∉ folder.names) (hs : ∃ rs', survey s' c calls' c.databases = .ok rs')
    (ho : ∀ rs', survey s' c calls' c.databases = .ok rs' → outputs s' c rs' = outputs s c rs) :
    (∃ rs' d₂ d'', Phases s' c folder calls' rs' d' d₂ d'') ↔ (c.clean = true → Reopens c folder d') := by
  have hfolders := h.exists_makeFolders_again_iff hd hl hn
  constructor
  · rintro ⟨rs', d₂, d'', h'⟩ hc
    refine ⟨fun _ => hfolders.1 ⟨d₂, h'.made⟩, ?_⟩
    exact (h.sweepable_again_iff hd hl hcontext h'.made hn hc).1 (h'.sweepable hc)
  · intro hre
    obtain ⟨d₂, h₂⟩ := hfolders.2 (h.passable_contextFolder hd hl hcontext fun hc => (hre hc).contextFolder)
    have hopens : Opens c folder d' d₂ :=
      ⟨h₂, fun hc => (h.sweepable_again_iff hd hl hcontext h₂ hn hc).2 (hre hc).fits⟩
    obtain ⟨rs', hs'⟩ := hs
    obtain ⟨d'', hw⟩ := Output.exists_forM_save (h.loses hd hl).sound (h.linkFree_prepared hd hl) h.written
      (h.ready_again hd hl hopens)
    rw [← ho rs' hs'] at hw
    exact ⟨rs', d₂, d'', hopens, hs', h.context, hw⟩

end Phases

/-- A run left everything as another one had left it, and tells the same about it. -/
structure Repeats (sm sm' : Summary) (d d' : Disk) : Prop where
  home : d'.home = d.home
  get? : ∀ l, d'.get? l = d.get? l
  artifacts : sm'.artifacts = sm.artifacts
  modelPaths : sm'.modelPaths = sm.modelPaths
  contextPath : sm'.contextPath = sm.contextPath

/-- A run can be repeated unless it cleans and has left something in the way of the folder of a context that it
did not write, or something whose path through the folder of the models is too long. A repeated run changes
nothing. -/
theorem run_again (k : Snapshot) (types : TypeMap) {now now' : Calendar.Moment}
    (hnow : now.utc?.isSome → now'.utc?.isSome) {events : List Event} {sm : Summary} {j : Journal}
    (hd : d.Sound) (hl : d.LinkFree) (hr : c.complete = .ok r) (hm : c.modelsFolder = some folder)
    (hn : ".." ∉ folder.names) (h : outcome (run ⟨k.catalog, types, now⟩ c) ⟨d, events⟩ = (.ok sm, j))
    (events' : List Event) :
    ((∃ sm' j', outcome (run ⟨k.catalog, types, now'⟩ c) ⟨j.disk, events'⟩ = (.ok sm', j')) ↔
      (c.clean = true → Reopens r folder j.disk)) ∧
    ∀ sm' j', outcome (run ⟨k.catalog, types, now'⟩ c) ⟨j.disk, events'⟩ = (.ok sm', j') →
      Repeats sm sm' j.disk j'.disk := by
  have hcr := Config.completes_of_complete hr
  rw [← hcr.modelsFolder] at hm
  obtain ⟨d₁, rs, hphases, rfl, _⟩ := (run_eq_ok_iff_phases hr hm hd hl).1 h
  have hd' := hphases.sound hd hl
  have hl' := hphases.linkFree hd hl
  have hrun : ∀ sm' j', outcome (run ⟨k.catalog, types, now'⟩ c) ⟨j.disk, events'⟩ = (.ok sm', j') ↔ _ :=
    fun sm' j' => run_eq_ok_iff_phases hr hm hd' hl'
  have hk := k.recorded_catalog
  constructor
  · rw [← hcr.clean, ← hphases.exists_again_iff hd hl hcr.contextFolder hn
      (exists_survey (s := ⟨k.catalog, types, now⟩) hk hnow hphases.told (Journal.mk j.disk events').calls)
      fun rs' hs' => outputs_of_survey (s := ⟨k.catalog, types, now⟩) hk hphases.told hs']
    simp only [hrun]
    constructor
    · rintro ⟨_, j', d₂, rs', h', _⟩
      exact ⟨rs', d₂, j'.disk, h'⟩
    · rintro ⟨rs', d₂, d'', h'⟩
      exact ⟨_, ⟨d'', _⟩, d₂, rs', h', rfl, rfl⟩
  · intro sm' j' h'
    obtain ⟨d₂, rs', hagain, rfl, _⟩ := (hrun sm' j').1 h'
    have he := entities_of_survey (s := ⟨k.catalog, types, now⟩) hk hphases.told hagain.told
    have ho := outputs_of_survey (s := ⟨k.catalog, types, now⟩) hk hphases.told hagain.told
    constructor
    case home => exact hagain.home hd' hl'
    case get? => exact hphases.get?_again hd hl hcr.contextFolder hagain ho
    all_goals simp only [summary, artifacts, he]

/-- The context is not written, but its folder is made where the model belongs. -/
def blocking : Config where
  modelsFolder := some ⟨0, ["m"]⟩
  contextFile := some ⟨0, ["m", "T.cs", "c.cs"]⟩
  «namespace» := some "N"
  clean := true
  createContext := false
  databases := [⟨"D", none, {}⟩]

def completedBlocking : Config := { blocking with
  modelsNamespace := some "N"
  contextNamespace := some "N"
  contextName := some "MyORMKustoDbContext"
  contextFolder := some ⟨0, ["m", "T.cs"]⟩ }

theorem outputs_blocking : ∃ text, outputs singleSetting completedBlocking singleReports =
    [⟨⟨0, ["m", "T.cs"]⟩, text⟩] := by
  obtain ⟨text, ho⟩ := outputs_single (c := completedBlocking) rfl
  rw [contextOutput_of_no_context rfl] at ho
  exact ⟨text, ho⟩

theorem run_blocking : ∃ sm j, outcome (run singleSetting blocking) ⟨Disk.fresh ["w"], []⟩ = (.ok sm, j) := by
  obtain ⟨text, ho⟩ := outputs_blocking
  refine exists_run (r := completedBlocking) (n := 0) rfl rfl ?_ (survey_single rfl rfl) ?_
  · cbv
  · rw [ho]
    cbv

/-- The folder of the context is removed because it is empty, and the model takes its place. -/
theorem not_reopens_blocking {sm : Summary} {j : Journal}
    (h : outcome (run singleSetting blocking) ⟨Disk.fresh ["w"], []⟩ = (.ok sm, j)) :
    ¬ Reopens completedBlocking ⟨0, ["m"]⟩ j.disk := by
  intro hre
  obtain ⟨d₁, hp, _⟩ := phases_single (r := completedBlocking) rfl rfl rfl h
  obtain ⟨text, ho⟩ := outputs_blocking
  have hfile : j.disk.file? ["w", "m", "T.cs"] = some text.toUTF8 := by
    rw [file?_eq_some_iff, hp.get?_eq fresh_sound fresh_linkFree, ho]
    rfl
  have hway : j.disk.LeadsThrough ⟨0, ["m", "T.cs"]⟩ ["w", "m", "T.cs"] := by
    rw [leadsThrough_congr (hp.home fresh_sound fresh_linkFree)]
    decide
  rw [(hre.contextFolder rfl _ rfl).way _ hway] at hfile
  cases hfile

theorem reopens_renewing {sm : Summary} {j : Journal}
    (h : outcome (run singleSetting renewing) ⟨Disk.fresh ["w"], []⟩ = (.ok sm, j)) :
    Reopens completedRenewing ⟨0, ["m"]⟩ j.disk :=
  ⟨fun hc => (nomatch hc), fun _ hb _ => fits_renewing h hb⟩

theorem run_again_single :
    (∃ sm j sm' j', (Disk.fresh ["w"]).Sound ∧ (Disk.fresh ["w"]).LinkFree ∧
      renewing.complete = .ok completedRenewing ∧ renewing.modelsFolder = some ⟨0, ["m"]⟩ ∧ ".." ∉ ["m"] ∧
      outcome (run singleSetting renewing) ⟨Disk.fresh ["w"], []⟩ = (.ok sm, j) ∧
      outcome (run singleSetting renewing) ⟨j.disk, []⟩ = (.ok sm', j') ∧ Repeats sm sm' j.disk j'.disk) ∧
    ∃ sm j, blocking.complete = .ok completedBlocking ∧ blocking.modelsFolder = some ⟨0, ["m"]⟩ ∧
      outcome (run singleSetting blocking) ⟨Disk.fresh ["w"], []⟩ = (.ok sm, j) ∧
      ∀ sm' j', outcome (run singleSetting blocking) ⟨j.disk, []⟩ ≠ (.ok sm', j') := by
  constructor
  · obtain ⟨sm, j, h⟩ := run_renewing_fresh
    obtain ⟨hiff, hrepeats⟩ := run_again singleSnapshot {} id fresh_sound fresh_linkFree
      (r := completedRenewing) rfl rfl (by decide) h []
    obtain ⟨sm', j', h'⟩ := hiff.2 fun _ => reopens_renewing h
    exact ⟨sm, j, sm', j', fresh_sound, fresh_linkFree, rfl, rfl, by decide, h, h', hrepeats sm' j' h'⟩
  · obtain ⟨sm, j, h⟩ := run_blocking
    obtain ⟨hiff, _⟩ := run_again singleSnapshot {} id fresh_sound fresh_linkFree
      (r := completedBlocking) rfl rfl (by decide) h []
    exact ⟨sm, j, rfl, rfl, h, fun sm' j' h' => not_reopens_blocking h (hiff.1 ⟨sm', j', h'⟩ rfl)⟩

end EntityGen.Generation
