import Mathlib
import EntityGen.Proofs.Cleaning.DryRun
import EntityGen.Proofs.Cleaning.Frame
import EntityGen.Proofs.Disk.Passable

/-! What cleaning leaves where there are no links. -/

namespace EntityGen

namespace Disk

/-- The disk without all that is below a place. -/
def cleared (d : Disk) (m : Place) : Disk := d.without fun l => m.isPrefixOf l && decide (l ≠ m)

variable {d : Disk} {folder : Path} {l m : Place} {gone : Place → Bool}

theorem get?_cleared (d : Disk) (m l : Place) :
    (d.cleared m).get? l = if m <+: l ∧ l ≠ m then none else d.get? l := by
  split
  · next h =>
    apply get?_without_of
    · rintro rfl
      exact h.2 (List.prefix_nil.1 h.1).symm
    · simpa using h
  · next h =>
    apply get?_without_of_not
    simpa using h

theorem sum_sizeAt_files (d : Disk) (ls : List Place) :
    ((ls.filter fun l => (d.file? l).isSome).map d.sizeAt).sum = (ls.map d.sizeAt).sum := by
  induction ls with
  | nil => rfl
  | cons l ls ih =>
    rw [List.filter_cons]
    split
    · simp [ih]
    · next hf => simpa [sizeAt, Option.not_isSome_iff_eq_none.1 hf] using ih

theorem isPrefixOf_and_ne (hl : l ∈ d.entries.map (·.1)) :
    (m.isPrefixOf l && decide (l ≠ m)) = true ↔ d.Below m l := by
  simp only [Bool.and_eq_true, List.isPrefixOf_iff_prefix, decide_eq_true_eq]
  exact ⟨fun h => ⟨h.1, h.2, get?_of_mem hl⟩, fun hb => ⟨hb.isPrefix, hb.ne⟩⟩

theorem cleared_of_placesBelow (h : d.placesBelow m = []) : d.cleared m = d := by
  rw [cleared, ← without_false d, without_without]
  apply without_congr
  intro l hl
  have hb : ¬ d.Below m l := by
    rw [← mem_placesBelow_iff_below, h]
    exact List.not_mem_nil
  rwa [← isPrefixOf_and_ne hl, Bool.not_eq_true] at hb

/-- All that is below a folder is a file, or it is hollow once the files are gone. -/
theorem withoutHollow_withoutFiles (h : d.FolderAt folder m) :
    (d.withoutFiles (sorted (d.placesBelow m))).withoutHollow (d.directoriesIn m) = d.cleared m := by
  rw [withoutHollow, withoutFiles, without_without, cleared, ← withoutFiles]
  apply without_congr
  intro l hl
  rw [Bool.eq_iff_iff, isPrefixOf_and_ne hl]
  simp only [Bool.or_eq_true, Bool.and_eq_true, List.contains_iff_mem, mem_sorted_placesBelow, mem_directoriesIn]
  constructor
  · rintro (⟨hb, _⟩ | ⟨⟨hb, _⟩, _⟩) <;> exact hb
  · intro hb
    obtain ⟨e, he⟩ := Option.isSome_iff_exists.1 hb.present
    cases e with
    | file content => exact .inl ⟨hb, by simp [file?, he]⟩
    | directory => exact .inr ⟨⟨hb, he⟩, Cleaning.hollow_withoutFiles hb⟩
    | link t => exact absurd he (h.linkFree l t)

end Disk

namespace Cleaning

open Disk Run

variable {d : Disk} {folder : Path} {context : Option Path} {l m : Place} {n : Nat} {events : List Event}
  {j : Journal}

theorem cleanContext_silent : Preserves (fun j => j.events = events) (cleanContext false context) := by
  cases context with
  | none => exact .pure _
  | some file => exact removeFile_preserves nofun fun _ _ => act_silent _ _

theorem cleanModels_silent : Preserves (fun j => j.events = events) (cleanModels false folder) := by
  apply cleanModels_preserves
  · exact fun _ _ _ _ _ _ => removeFile_preserves nofun fun _ _ => act_silent _ _
  · exact fun _ => prune_preserves fun _ _ _ _ _ _ => act_silent _ _

theorem cleanContext_eq_ok_iff (hl : d.LinkFree) :
    outcome (cleanContext false context) ⟨d, events⟩ = (.ok n, j) ↔ ContextAnswers d context ∧
      n = ((contextPlaces d context).map d.sizeAt).sum ∧ j = ⟨d.withoutFiles (contextPlaces d context), events⟩ := by
  by_cases hc : ContextAnswers d context
  · obtain ⟨events', ho⟩ := cleanContext_of_answers hl hc false events
    have hs : (outcome (cleanContext false context) ⟨d, events⟩).2.events = events := cleanContext_silent _ rfl
    rw [ho] at hs ⊢
    dsimp only at hs
    simp [hs, hc, leaves, eq_comm]
  · obtain ⟨f, hf⟩ := cleanContext_of_not_answers hc events
    have hf := hf false
    constructor
    · intro h
      rw [h] at hf
      cases hf
    · exact fun h => absurd h.1 hc

theorem outcome_cleanModels (h : d.FolderAt folder m) (hfits : AllFit folder m (d.placesBelow m))
    (hu : ¬ Undercut d folder) (events : List Event) :
    outcome (cleanModels false folder) ⟨d, events⟩ = (.ok (d.total m), ⟨d.cleared m, events⟩) := by
  obtain ⟨events', ho⟩ := outcome_removeFiles_sorted h hfits false events
  have hw := (wayKept_withoutFiles_iff h).2 hu
  rw [← directoriesIn_withoutFiles d (sorted (d.placesBelow m))] at hw
  have hp := outcome_prune (h.withoutFiles _) (allFit_withoutFiles hfits _) hw events'
  rw [directoriesIn_withoutFiles, withoutHollow_withoutFiles h] at hp
  have hc : outcome (cleanModels false folder) ⟨d, events⟩ = (.ok (d.total m), ⟨d.cleared m, events'⟩) := by
    rw [outcome_cleanModels_eq h (pathsBelow_of_allFit h hfits), outcome_bind, ho]
    simp only [leaves, Bool.not_false, Bool.false_eq_true, if_false, if_true]
    rw [outcome_bind, hp]
    rfl
  have hs : (outcome (cleanModels false folder) ⟨d, events⟩).2.events = events := cleanModels_silent _ rfl
  rw [hc] at hs
  dsimp only at hs
  rw [hc, hs]

theorem cleanModels_eq_ok_iff (h : d.FolderAt folder m) :
    outcome (cleanModels false folder) ⟨d, events⟩ = (.ok n, j) ↔
      (AllFit folder m (d.placesBelow m) ∧ ¬ Undercut d folder) ∧ n = d.total m ∧ j = ⟨d.cleared m, events⟩ := by
  constructor
  · intro hc
    obtain ⟨hfits, _, hu⟩ := (cleanModels_ok_iff h).1 (congrArg Prod.fst hc)
    rw [outcome_cleanModels h hfits hu] at hc
    cases hc
    exact ⟨⟨hfits, hu⟩, rfl, rfl⟩
  · rintro ⟨⟨hfits, hu⟩, rfl, rfl⟩
    exact outcome_cleanModels h hfits hu events

/-- The disk without the file of the context and without all that is below the folder, if it is one. -/
def swept (d : Disk) (folder : Path) (context : Option Path) : Disk :=
  match d.isDirectory folder with
  | .ok true => (d.withoutFiles (contextPlaces d context)).cleared (d.placeOf folder)
  | _ => d.withoutFiles (contextPlaces d context)

/-- What the file of the context holds, and all other files below the folder. -/
def freed (d : Disk) (folder : Path) (context : Option Path) : Nat :=
  ((contextPlaces d context).map d.sizeAt).sum +
    match d.isDirectory folder with
    | .ok true => (d.withoutFiles (contextPlaces d context)).total (d.placeOf folder)
    | _ => 0

/-- No path is too long for what is asked about it, and cleaning does not cut its own way to the folder. -/
structure Sweepable (d : Disk) (folder : Path) (context : Option Path) : Prop where
  contextAnswers : ContextAnswers d context
  folderAnswers : ∃ b, d.isDirectory folder = .ok b
  fits : d.isDirectory folder = .ok true → AllFit folder (d.placeOf folder)
    ((d.withoutFiles (contextPlaces d context)).placesBelow (d.placeOf folder))
  way : ¬ Undercut d folder

theorem swept_of_not_directory (hq : d.isDirectory folder ≠ .ok true) (context : Option Path) :
    swept d folder context = d.withoutFiles (contextPlaces d context) := by
  unfold swept
  split
  · next h => exact absurd h hq
  · rfl

theorem freed_of_not_directory (hq : d.isDirectory folder ≠ .ok true) (context : Option Path) :
    freed d folder context = ((contextPlaces d context).map d.sizeAt).sum := by
  unfold freed
  split
  · next h => exact absurd h hq
  · rfl

theorem folderAt_of_isDirectory (hd : d.Sound) (hl : d.LinkFree) (hq : d.isDirectory folder = .ok true) :
    d.FolderAt folder (d.placeOf folder) := by
  obtain ⟨m, hm, hmd⟩ := isDirectory_iff.1 hq
  cases hl.locate_eq_placeOf hm
  exact ⟨hd, hl, hm, hmd⟩

/-- The file of the context is gone before anything below the folder is asked about. -/
theorem mem_placesBelow_rest_iff : l ∈ (d.withoutFiles (contextPlaces d context)).placesBelow m ↔
    d.Below m l ∧ l ∉ contextPlaces d context := by
  rw [mem_placesBelow_iff_below]
  constructor
  · intro hb
    obtain ⟨e, he⟩ := Option.isSome_iff_exists.1 hb.present
    refine ⟨⟨hb.isPrefix, hb.ne, by simp [get?_of_without he]⟩, fun hmem => ?_⟩
    have hf := file_of_mem_contextPlaces hmem
    have hroot : l ≠ [] := by
      rintro rfl
      cases hf
    rw [withoutFiles, get?_without_of hroot (by simp [hmem, hf])] at he
    cases he
  · rintro ⟨hb, hmem⟩
    exact ⟨hb.isPrefix, hb.ne, by rw [get?_withoutFiles_of_not_mem d hmem]; exact hb.present⟩

theorem not_undercut_of_notMem (hl : d.LinkFree) (hn : ".." ∉ folder.names) : ¬ Undercut d folder := by
  rintro ⟨m, hm, l, hmem, hway⟩
  have hb := (mem_directoriesIn.1 ((List.dropLast_sublist _).subset hmem)).1
  have hp := prefix_of_mem_stops hn hway
  rw [← foldl_step_of_notMem hn, ← placeOf_eq, ← hl.locate_eq_placeOf hm] at hp
  exact hb.ne (hp.eq_of_length_le hb.isPrefix.length_le)

/-- Cleaning succeeds on what can be swept, and only then; that is what it leaves. -/
theorem cleanOutput_eq_ok_iff (hd : d.Sound) (hl : d.LinkFree) :
    outcome (cleanOutput false folder context) ⟨d, events⟩ = (.ok n, j) ↔
      Sweepable d folder context ∧ n = freed d folder context ∧ j = ⟨swept d folder context, events⟩ := by
  rw [cleanOutput]
  simp only [outcome_bind_eq_ok_iff, cleanContext_eq_ok_iff hl]
  by_cases hq : d.isDirectory folder = .ok true
  · have h := folderAt_of_isDirectory hd hl hq
    have h' := h.withoutFiles (contextPlaces d context)
    simp only [swept, freed, hq]
    constructor
    · rintro ⟨a, _, ⟨hc, rfl, rfl⟩, b, _, hm, ho⟩
      obtain ⟨⟨hfits, hu⟩, rfl, rfl⟩ := (cleanModels_eq_ok_iff h').1 hm
      cases ho
      rw [undercut_withoutFiles_iff h] at hu
      exact ⟨⟨hc, ⟨true, hq⟩, fun _ => hfits, hu⟩, rfl, rfl⟩
    · rintro ⟨hs, rfl, rfl⟩
      have hu := hs.way
      rw [← undercut_withoutFiles_iff h (contextPlaces d context)] at hu
      exact ⟨_, _, ⟨hs.contextAnswers, rfl, rfl⟩, _, _, outcome_cleanModels h' (hs.fits hq) hu events, rfl⟩
  · have hq' : (d.withoutFiles (contextPlaces d context)).isDirectory folder ≠ .ok true := by
      rwa [isDirectory_withoutFiles hl]
    rw [swept_of_not_directory hq, freed_of_not_directory hq]
    constructor
    · rintro ⟨a, _, ⟨hc, rfl, rfl⟩, b, _, hm, ho⟩
      obtain ⟨hf, rfl, rfl⟩ := (cleanModels_eq_ok_iff_of_not_directory hq').1 hm
      cases ho
      rw [isDirectory_withoutFiles hl] at hf
      exact ⟨⟨hc, ⟨false, hf⟩, fun h => absurd h hq, not_undercut_of_not_directory hd hq⟩, rfl, rfl⟩
    · rintro ⟨hs, rfl, rfl⟩
      obtain ⟨b, hb⟩ := hs.folderAnswers
      have hf : (d.withoutFiles (contextPlaces d context)).isDirectory folder = .ok false := by
        rw [isDirectory_withoutFiles hl, hb]
        cases b with
        | true => exact absurd hb hq
        | false => rfl
      exact ⟨_, _, ⟨hs.contextAnswers, rfl, rfl⟩, 0, _,
        (cleanModels_eq_ok_iff_of_not_directory hq').2 ⟨hf, rfl, rfl⟩, rfl⟩

theorem mem_contextPlaces_iff : l ∈ contextPlaces d context ↔
    ∃ file, context = some file ∧ d.locate true file = .ok l ∧ (d.file? l).isSome := by
  cases context with
  | none => simp [contextPlaces]
  | some file =>
    simp only [contextPlaces, Option.some.injEq, exists_eq_left']
    cases hf : d.locate true file with
    | error t => simp
    | ok m =>
      dsimp only
      split
      · next h => simp only [List.mem_singleton, Except.ok.injEq]; grind
      · next h => simp only [List.not_mem_nil, Except.ok.injEq, false_iff]; grind

/-- What is cleanable is the file of the context, and all that is below the folder if it is one. -/
theorem cleanable_iff (hl : d.LinkFree) : Cleanable d folder context l ↔ l ∈ contextPlaces d context ∨
    d.isDirectory folder = .ok true ∧ d.placeOf folder <+: l ∧ l ≠ d.placeOf folder := by
  rw [Cleanable, mem_contextPlaces_iff]
  apply or_congr
  · refine exists_congr fun file => and_congr_right fun _ => ?_
    rw [isFile_iff, hl.locate_eq false true]
    constructor
    · rintro ⟨⟨m, content, hm, he⟩, h⟩
      cases hm.symm.trans h
      exact ⟨h, by simp [file?, he]⟩
    · rintro ⟨h, hf⟩
      obtain ⟨content, hf⟩ := Option.isSome_iff_exists.1 hf
      exact ⟨⟨l, content, h, file?_eq_some_iff.1 hf⟩, h⟩
  · constructor
    · rintro ⟨m, hm, hmd, hb⟩
      cases hl.locate_eq_placeOf hm
      exact ⟨isDirectory_iff.2 ⟨_, hm, hmd⟩, hb⟩
    · rintro ⟨hq, hb⟩
      obtain ⟨m, hm, hmd⟩ := isDirectory_iff.1 hq
      cases hl.locate_eq_placeOf hm
      exact ⟨_, hm, hmd, hb⟩

theorem get?_swept_of_not_cleanable (hl : d.LinkFree) (hc : ¬ Cleanable d folder context l) :
    (swept d folder context).get? l = d.get? l := by
  rw [cleanable_iff hl, not_or] at hc
  by_cases hq : d.isDirectory folder = .ok true
  · have hb : ¬ (d.placeOf folder <+: l ∧ l ≠ d.placeOf folder) := fun hb => hc.2 ⟨hq, hb⟩
    simp only [swept, hq]
    rw [get?_cleared, if_neg hb, get?_withoutFiles_of_not_mem d hc.1]
  · rw [swept_of_not_directory hq, get?_withoutFiles_of_not_mem d hc.1]

theorem get?_swept_of_cleanable (hl : d.LinkFree) (hc : Cleanable d folder context l) :
    (swept d folder context).get? l = none := by
  rw [cleanable_iff hl] at hc
  have hcontext : l ∈ contextPlaces d context → (d.withoutFiles (contextPlaces d context)).get? l = none := by
    intro hl
    have hf := file_of_mem_contextPlaces hl
    refine get?_without_of ?_ (by simp [hl, hf])
    rintro rfl
    cases hf
  by_cases hq : d.isDirectory folder = .ok true
  · simp only [swept, hq]
    rw [get?_cleared]
    split
    · rfl
    · next hb => exact hcontext (hc.resolve_right fun h => hb h.2)
  · rw [swept_of_not_directory hq]
    exact hcontext (hc.resolve_right fun h => hq h.1)

theorem get?_swept_eq_some_iff (hl : d.LinkFree) {e : Entry} :
    (swept d folder context).get? l = some e ↔ d.get? l = some e ∧ ¬ Cleanable d folder context l := by
  by_cases hc : Cleanable d folder context l
  · simp [get?_swept_of_cleanable hl hc, hc]
  · simp [get?_swept_of_not_cleanable hl hc, hc]

theorem loses_swept (hd : d.Sound) (hl : d.LinkFree) (h : Sweepable d folder context) :
    d.Loses (Cleanable d folder context) (swept d folder context) := by
  have hc : outcome (cleanOutput false folder context) ⟨d, []⟩ = _ := (cleanOutput_eq_ok_iff hd hl).2 ⟨h, rfl, rfl⟩
  have hloses : d.Loses (Cleanable d folder context)
      (outcome (cleanOutput false folder context) ⟨d, []⟩).2.disk := loses_cleanable hd []
  rwa [hc] at hloses

/-! A second time there is nothing to do. -/

section Again

variable (hd : d.Sound) (hl : d.LinkFree) (h : Sweepable d folder context)

include hd hl h

theorem test_swept {q : Entry → Bool} {p : Path} (ha : ∃ b, d.test q p = .ok b)
    (hc : ∀ l e, d.locate true p = .ok l → d.get? l = some e → q e = true → Cleanable d folder context l) :
    (swept d folder context).test q p = .ok false := by
  have hloses := loses_swept hd hl h
  obtain ⟨b, hb⟩ := hloses.exists_test ha
  rw [hb]
  cases b with
  | false => rfl
  | true =>
    obtain ⟨l, e, hp, he, hq⟩ := test_eq_ok_true_iff.1 hb
    exact absurd (hc l e (hloses.locate hp he) (hloses.get?_eq he) hq) ((get?_swept_eq_some_iff hl).1 he).2

theorem isFile_swept {file : Path} (hf : context = some file) : (swept d folder context).isFile file = .ok false := by
  refine test_swept hd hl h (h.contextAnswers file hf) fun l e hp he hq => ?_
  cases e with
  | directory | link t => cases hq
  | file content =>
    exact (cleanable_iff hl).2 (.inl (mem_contextPlaces_iff.2 ⟨file, hf, hp, by simp [file?, he]⟩))

theorem contextPlaces_swept : contextPlaces (swept d folder context) context = [] := by
  cases context with
  | none => rfl
  | some file => exact contextPlaces_of_not_isFile (by simp [isFile_swept hd hl h])

theorem isDirectory_of_swept (hq : (swept d folder context).isDirectory folder = .ok true) :
    d.isDirectory folder = .ok true :=
  isDirectory_iff.2 ((loses_swept hd hl h).exists_directory hq)

theorem placesBelow_swept (hq : (swept d folder context).isDirectory folder = .ok true) :
    (swept d folder context).placesBelow ((swept d folder context).placeOf folder) = [] := by
  rw [placeOf_congr (loses_swept hd hl h).home, List.eq_nil_iff_forall_not_mem]
  intro l hmem
  have hb := mem_placesBelow_iff_below.1 hmem
  have hc : Cleanable d folder context l :=
    (cleanable_iff hl).2 (.inr ⟨isDirectory_of_swept hd hl h hq, hb.isPrefix, hb.ne⟩)
  have hp := hb.present
  rw [get?_swept_of_cleanable hl hc] at hp
  cases hp

theorem not_undercut_swept : ¬ Undercut (swept d folder context) folder := by
  have hloses := loses_swept hd hl h
  rintro ⟨m, hm, l, hmem, _⟩
  have hb := (mem_directoriesIn.1 ((List.dropLast_sublist _).subset hmem)).1
  have hq := isDirectory_iff.2 ⟨m, hm, hb.directory hloses.sound⟩
  have hbelow := mem_placesBelow_iff_below.2 hb
  cases (hloses.linkFree hl).locate_eq_placeOf hm
  rw [placesBelow_swept hd hl h hq] at hbelow
  cases hbelow

theorem sweepable_swept : Sweepable (swept d folder context) folder context where
  contextAnswers file hf := ⟨false, isFile_swept hd hl h hf⟩
  folderAnswers := (loses_swept hd hl h).exists_test h.folderAnswers
  fits hq := by
    rw [contextPlaces_swept hd hl h, withoutFiles_nil, placesBelow_swept hd hl h hq]
    exact fun l hmem => by cases hmem
  way := not_undercut_swept hd hl h

theorem swept_swept : swept (swept d folder context) folder context = swept d folder context := by
  by_cases hq : (swept d folder context).isDirectory folder = .ok true
  · rw [swept, hq]
    dsimp only
    rw [contextPlaces_swept hd hl h, withoutFiles_nil]
    exact cleared_of_placesBelow (placesBelow_swept hd hl h hq)
  · rw [swept_of_not_directory hq, contextPlaces_swept hd hl h, withoutFiles_nil]

theorem freed_swept : freed (swept d folder context) folder context = 0 := by
  by_cases hq : (swept d folder context).isDirectory folder = .ok true
  · rw [freed, hq]
    dsimp only
    rw [contextPlaces_swept hd hl h, withoutFiles_nil, total, placesBelow_swept hd hl h hq]
    rfl
  · rw [freed_of_not_directory hq, contextPlaces_swept hd hl h]
    rfl

end Again

/-- The files that are gone, each of them listed once. -/
structure Removed (d d' : Disk) (ls : List Place) : Prop where
  nodup : ls.Nodup
  mem : ∀ l, l ∈ ls ↔ (d.file? l).isSome ∧ d'.get? l = none

theorem removed_iff (hl : d.LinkFree) {ls : List Place} : Removed d (swept d folder context) ls ↔
    ls.Nodup ∧ ∀ l, l ∈ ls ↔ (d.file? l).isSome ∧ Cleanable d folder context l := by
  have hgone : ∀ l, (d.file? l).isSome → ((swept d folder context).get? l = none ↔ Cleanable d folder context l) := by
    intro l hf
    obtain ⟨content, hc⟩ := Option.isSome_iff_exists.1 hf
    rw [file?_eq_some_iff] at hc
    by_cases hclean : Cleanable d folder context l
    · simp [get?_swept_of_cleanable hl hclean, hclean]
    · simp [get?_swept_of_not_cleanable hl hclean, hclean, hc]
  constructor
  · intro h
    exact ⟨h.nodup, fun l => (h.mem l).trans (and_congr_right (hgone l))⟩
  · rintro ⟨hn, hmem⟩
    exact ⟨hn, fun l => (hmem l).trans (and_congr_right (hgone l)).symm⟩

/-- The files below the folder of the models, the context's not among them. -/
def modelPlaces (d : Disk) (folder : Path) (context : Option Path) : List Place :=
  (d.placesBelow (d.placeOf folder)).filter fun l => (d.file? l).isSome && !(contextPlaces d context).contains l

theorem mem_modelPlaces_iff : l ∈ modelPlaces d folder context ↔
    ((d.file? l).isSome ∧ l ∉ contextPlaces d context) ∧ d.placeOf folder <+: l ∧ l ≠ d.placeOf folder := by
  simp only [modelPlaces, List.mem_filter, mem_placesBelow_iff_below, Bool.and_eq_true, Bool.not_eq_true',
    List.contains_eq_mem, decide_eq_false_iff_not]
  constructor
  · exact fun h => ⟨h.2, h.1.isPrefix, h.1.ne⟩
  · intro h
    obtain ⟨content, hc⟩ := Option.isSome_iff_exists.1 h.1.1
    exact ⟨⟨h.2.1, h.2.2, by simp [file?_eq_some_iff.1 hc]⟩, h.1⟩

theorem total_eq_sum_modelPlaces (d : Disk) (folder : Path) (context : Option Path) :
    (d.withoutFiles (contextPlaces d context)).total (d.placeOf folder) =
      ((modelPlaces d folder context).map d.sizeAt).sum := by
  have hfiles : ((d.withoutFiles (contextPlaces d context)).placesBelow (d.placeOf folder)).filter
      (fun l => ((d.withoutFiles (contextPlaces d context)).file? l).isSome) = modelPlaces d folder context := by
    simp only [file?_withoutFiles]
    rw [withoutFiles, placesBelow_without, List.filter_filter, modelPlaces]
    apply List.filter_congr
    intro l _
    by_cases hl : l ∈ contextPlaces d context <;> simp [hl]
  rw [total, ← sum_sizeAt_files, hfiles]
  congr 1
  apply List.map_congr_left
  intro l hl
  apply sizeAt_congr
  exact get?_withoutFiles_of_not_mem d (mem_modelPlaces_iff.1 hl).1.2

theorem exists_removed (hd : d.Sound) (hl : d.LinkFree) (folder : Path) (context : Option Path) :
    ∃ ls, Removed d (swept d folder context) ls ∧ freed d folder context = (ls.map d.sizeAt).sum := by
  simp only [removed_iff hl, cleanable_iff hl]
  by_cases hq : d.isDirectory folder = .ok true
  · refine ⟨contextPlaces d context ++ modelPlaces d folder context, ⟨?_, fun l => ?_⟩, ?_⟩
    · rw [List.nodup_append]
      refine ⟨nodup_contextPlaces d context, (hd.nodup_placesBelow _).filter _, ?_⟩
      rintro l hcontext _ hmodel rfl
      exact (mem_modelPlaces_iff.1 hmodel).1.2 hcontext
    · rw [List.mem_append, mem_modelPlaces_iff]
      simp only [hq, true_and]
      have hf : l ∈ contextPlaces d context → (d.file? l).isSome := file_of_mem_contextPlaces
      grind
    · simp only [freed, hq]
      rw [total_eq_sum_modelPlaces, List.map_append, List.sum_append_nat]
  · refine ⟨contextPlaces d context, ⟨nodup_contextPlaces d context, fun l => ?_⟩, freed_of_not_directory hq context⟩
    simp only [hq, false_and, or_false]
    exact ⟨fun hmem => ⟨file_of_mem_contextPlaces hmem, hmem⟩, And.right⟩

/-- What cleaning leaves of a disk, and what it tells. -/
structure Sweeps (d : Disk) (folder : Path) (context : Option Path) (n : Nat) (d' : Disk) : Prop where
  home : d'.home = d.home
  directory : d.isDirectory folder = .ok true → d'.get? (d.placeOf folder) = some .directory ∧
    ∀ l, d.placeOf folder <+: l → l ≠ d.placeOf folder → d'.get? l = none
  found : ".." ∉ folder.names → d'.isDirectory folder = d.isDirectory folder
  gone : ∀ file, context = some file → d'.isFile file = .ok false
  kept : ∀ l, ¬ Cleanable d folder context l → d'.get? l = d.get? l
  count : ∃ ls, Removed d d' ls ∧ n = (ls.map d.sizeAt).sum

theorem isDirectory_swept (hd : d.Sound) (hl : d.LinkFree) (h : Sweepable d folder context)
    (hn : ".." ∉ folder.names) : (swept d folder context).isDirectory folder = d.isDirectory folder := by
  have hloses := loses_swept hd hl h
  have htrue : (swept d folder context).isDirectory folder = .ok true ↔ d.isDirectory folder = .ok true := by
    constructor
    · exact isDirectory_of_swept hd hl h
    · intro hq
      obtain ⟨hp, hdirs⟩ := hl.isDirectory_true_iff.1 hq
      refine (hloses.linkFree hl).isDirectory_true_iff.2 ⟨hp, fun l hway => ?_⟩
      rw [start_congr hloses.home] at hway
      rw [get?_swept_eq_some_iff hl, cleanable_iff hl]
      refine ⟨hdirs l hway, ?_⟩
      rintro (hc | ⟨_, hb, hne⟩)
      · have hf := file_of_mem_contextPlaces hc
        rw [file?_eq_none_of_directory (hdirs l hway)] at hf
        cases hf
      · -- Without dots the way leads down to the folder, and not below it.
        have hp := prefix_of_mem_stops hn hway
        rw [← foldl_step_of_notMem hn, ← placeOf_eq] at hp
        exact hne (hp.eq_of_length_le hb.length_le)
  obtain ⟨b, hb⟩ := h.folderAnswers
  obtain ⟨b', hb'⟩ : ∃ b, (swept d folder context).isDirectory folder = .ok b :=
    hloses.exists_test h.folderAnswers
  rw [hb, hb', Except.ok.injEq, Except.ok.injEq, ← Bool.eq_iff_iff] at htrue
  rw [hb, hb', htrue]

/-- Where there are no links, cleaning that succeeds takes away the file of the context and all that is below
the folder, and nothing else. It tells what the files held that are gone. A second time there is nothing to do. -/
theorem cleanOutput_sweeps (hd : d.Sound) (hl : d.LinkFree)
    (hc : outcome (cleanOutput false folder context) ⟨d, events⟩ = (.ok n, j)) :
    Sweeps d folder context n j.disk ∧ outcome (cleanOutput false folder context) j = (.ok 0, j) := by
  obtain ⟨h, rfl, rfl⟩ := (cleanOutput_eq_ok_iff hd hl).1 hc
  have hloses := loses_swept hd hl h
  constructor
  · constructor
    case home => exact hloses.home
    case directory =>
      intro hq
      have hf := folderAt_of_isDirectory hd hl hq
      constructor
      · rw [get?_swept_eq_some_iff hl, cleanable_iff hl]
        refine ⟨hf.directory, ?_⟩
        rintro (hc | ⟨_, _, hne⟩)
        · have hfile := file_of_mem_contextPlaces hc
          rw [file?_eq_none_of_directory hf.directory] at hfile
          cases hfile
        · exact hne rfl
      · intro l hb hne
        exact get?_swept_of_cleanable hl ((cleanable_iff hl).2 (.inr ⟨hq, hb, hne⟩))
    case found => exact isDirectory_swept hd hl h
    case gone => exact fun file => isFile_swept hd hl h
    case kept => exact fun l => get?_swept_of_not_cleanable hl
    case count => exact exists_removed hd hl folder context
  · refine (cleanOutput_eq_ok_iff hloses.sound (hloses.linkFree hl)).2 ⟨sweepable_swept hd hl h, ?_, ?_⟩
    · exact (freed_swept hd hl h).symm
    · rw [swept_swept hd hl h]

theorem cleanOutput_nestedDisk : ∃ j,
    outcome (cleanOutput false ⟨0, ["m"]⟩ (some ⟨0, ["m", "c"]⟩)) ⟨nestedDisk, []⟩ = (.ok 4, j) := by
  refine ⟨_, Prod.ext ?_ rfl⟩
  cbv

theorem cleanOutput_sweeps_nestedDisk : ∃ j, nestedDisk.Sound ∧ nestedDisk.LinkFree ∧
    outcome (cleanOutput false ⟨0, ["m"]⟩ (some ⟨0, ["m", "c"]⟩)) ⟨nestedDisk, []⟩ = (.ok 4, j) ∧
    Sweeps nestedDisk ⟨0, ["m"]⟩ (some ⟨0, ["m", "c"]⟩) 4 j.disk ∧
    outcome (cleanOutput false ⟨0, ["m"]⟩ (some ⟨0, ["m", "c"]⟩)) j = (.ok 0, j) := by
  obtain ⟨j, hc⟩ := cleanOutput_nestedDisk
  exact ⟨j, nestedDisk_sound, nestedDisk_linkFree, hc, cleanOutput_sweeps nestedDisk_sound nestedDisk_linkFree hc⟩

end Cleaning
end EntityGen
