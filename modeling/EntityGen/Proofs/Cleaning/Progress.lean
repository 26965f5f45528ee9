import Mathlib.Data.List.Nodup
import EntityGen.Proofs.Cleaning.DryRun
import EntityGen.Proofs.Cleaning.Frame
import EntityGen.Proofs.Disk.Passable

/-! When cleaning comes to its end, also where there are links. -/

namespace EntityGen

namespace Disk

variable {d : Disk} {folder : Path} {l m : Place}

theorem Sound.eq_of_locate_pathTo {k : Place} (h : d.Sound) (hm : d.locate true folder = .ok m)
    (hmd : d.get? m = some .directory) (hb : d.Below m l) (hl : d.locate false (pathTo folder m l) = .ok k) :
    k = l := by
  obtain ⟨e, he⟩ := Option.isSome_iff_exists.1 hb.present
  rw [h.locate_pathTo hm hmd hb he false nofun] at hl
  split at hl
  · cases hl
    rfl
  · cases hl

theorem Loses.below_of_below {given : Place → Prop} {d' : Disk} (h : d.Loses given d') (hb : d'.Below m l) :
    d.Below m l := by
  obtain ⟨e, he⟩ := Option.isSome_iff_exists.1 hb.present
  exact ⟨hb.isPrefix, hb.ne, by rw [h.get?_eq he]; rfl⟩

theorem pathTo_inj {l' : Place} (hb : d.Below m l) (hb' : d.Below m l')
    (h : pathTo folder m l = pathTo folder m l') : l = l' := by
  have hnames := congrArg Path.names h
  rw [pathTo, pathTo, Path.below, Path.below, List.append_cancel_left_eq] at hnames
  rw [← hb.append_drop, hnames, hb'.append_drop]

theorem Sound.exists_pathsBelow (h : d.Sound) (hm : d.locate true folder = .ok m)
    (hmd : d.get? m = some .directory) (ha : ∀ l, d.Below m l → ∃ b, d.isFile (pathTo folder m l) = .ok b) :
    ∃ ps, d.pathsBelow folder = .ok ps ∧ ps.Nodup ∧ ∀ p, p ∈ ps ↔ ∃ l, d.Below m l ∧ p = pathTo folder m l := by
  refine ⟨_, pathsBelow_of_answers hm hmd ha, ?_, fun p => ?_⟩
  · refine List.Nodup.map_on (fun l hl l' hl' => ?_) (h.nodup_sorted_placesBelow m)
    exact pathTo_inj (mem_sorted_placesBelow.1 hl) (mem_sorted_placesBelow.1 hl')
  · simp only [List.mem_map, mem_sorted_placesBelow, eq_comm]

end Disk

namespace Cleaning

open Disk Run

/-- As long as the entry at a place is as it was, a path leads to a directory with something in it, whatever
else gets lost of what is given. -/
def Lasting (given : Place → Prop) (d : Disk) (l : Place) (p : Path) : Prop :=
  ∀ d', d.Loses given d' → d'.get? l = d.get? l →
    ∃ k, d'.locate true p = .ok k ∧ d'.get? k = some .directory ∧ d'.hasChildren k = true

/-- Cleaning finds its way all the time: no path that it asks about is too long, the way to the folder of the
models stays, and links below it lead to no directories but lasting ones. -/
structure Navigable (d : Disk) (folder : Path) (context : Option Path) : Prop where
  contextAnswers : ContextAnswers d context
  folderAnswers : ∃ b, d.isDirectory folder = .ok b
  answers : ∀ m l, d.locate true folder = .ok m → d.Below m l → ∃ b, d.isFile (pathTo folder m l) = .ok b
  way : ∀ m d', d.locate true folder = .ok m → d.get? m = some .directory →
    d.Loses (Cleanable d folder context) d' → d'.locate true folder = .ok m
  links : ∀ m l t, d.locate true folder = .ok m → d.Below m l → d.get? l = some (.link t) →
    d.isDirectory (pathTo folder m l) = .ok true →
      Lasting (Cleanable d folder context) d l (pathTo folder m l)

variable {given : Place → Prop} {d d' : Disk} {folder p : Path} {context : Option Path} {l m : Place} {ps : List Path}
  {j : Journal}

/-- Where a path leads to a file, the entry at its end goes. -/
theorem exists_outcome_removeFile (hf : d.isFile p = .ok true) (events : List Event) :
    ∃ k e, d.locate false p = .ok k ∧ d.get? k = some e ∧
      outcome (removeFile false p) ⟨d, events⟩ = (.ok (fileSize d p), ⟨d.erase k, events⟩) := by
  obtain ⟨k, e, hk, he, hne⟩ := exists_removable_of_isFile hf
  have hremove : outcome (Action.removeFile p) d = (.ok (), d.erase k) := by
    rw [Action.outcome_removeFile, hk]
    dsimp only
    rw [he]
    cases e with
    | directory => exact absurd rfl hne
    | file | link => rfl
  refine ⟨k, e, hk, he, ?_⟩
  simp [removeFile, outcome_bind, outcome_ask, outcome_map, outcome_act, hf, hremove, Except.map]

theorem removeFile_succeeds (ha : ∃ b, d.isFile p = .ok b) :
    Succeeds (fun j => d.Loses given j.disk) (removeFile false p) := by
  intro j h
  obtain ⟨b, hb⟩ := h.exists_test ha
  change j.disk.isFile p = .ok b at hb
  cases b with
  | false => exact ⟨0, by simp [removeFile, outcome_bind, outcome_ask, hb]⟩
  | true =>
    obtain ⟨k, e, -, -, ho⟩ := exists_outcome_removeFile hb j.events
    exact ⟨_, congrArg Prod.fst ho⟩

theorem removeFiles_succeeds (ha : ∀ p ∈ ps, ∃ b, d.isFile p = .ok b)
    (hp : ∀ p ∈ ps, ∀ l, d.locate false p = .ok l → given l) :
    Succeeds (fun j => d.Loses given j.disk) (removeFiles false ps) := by
  induction ps with
  | nil => exact .pure _
  | cons p ps ih =>
    obtain ⟨hap, haps⟩ := List.forall_mem_cons.1 ha
    obtain ⟨hpp, hpps⟩ := List.forall_mem_cons.1 hp
    refine (removeFile_succeeds hap).bind (removeFile_loses hpp) fun _ => ?_
    exact (ih haps hpps).bind (removeFiles_preserves fun q hq => removeFile_loses (hpps q hq)) fun _ => .pure _

theorem outcome_pruneDirectory_of_children (hp : j.disk.locate true p = .ok l)
    (hl : j.disk.get? l = some .directory) (hc : j.disk.hasChildren l = true) :
    outcome (pruneDirectory p) j = (.ok (), j) := by
  have hentry : j.disk.entry p = .ok .directory := by simp only [entry, hp, bind, Except.bind, hl]
  have hempty : outcome (Action.isEmptyDirectory p) j.disk = (.ok false, j.disk) := by
    rw [Action.outcome_isEmptyDirectory, hentry, hp]
    simp [Except.map, hc]
  rw [pruneDirectory, outcome_act, outcome_bind, hempty]
  rfl

theorem outcome_pruneDirectory_of_empty (hp : ∀ followLast, j.disk.locate followLast p = .ok l)
    (hl : j.disk.get? l = some .directory) (hc : j.disk.hasChildren l = false) :
    outcome (pruneDirectory p) j = (.ok (), { j with disk := j.disk.erase l }) := by
  have hentry : j.disk.entry p = .ok .directory := by simp only [entry, hp, bind, Except.bind, hl]
  have hempty : outcome (Action.isEmptyDirectory p) j.disk = (.ok true, j.disk) := by
    rw [Action.outcome_isEmptyDirectory, hentry, hp]
    simp [Except.map, hc]
  have hremove : outcome (Action.removeDirectory p) j.disk = (.ok (), j.disk.erase l) := by
    rw [Action.outcome_removeDirectory, hp]
    simp only [hl, hc]
    rfl
  rw [pruneDirectory, outcome_act, outcome_bind, hempty]
  simp only [if_true, hremove]
  rfl

/-- What cleaning takes for a directory below a folder is one, or a link to one. -/
inductive Found (d : Disk) (folder : Path) (m l : Place) : Prop
  | directory : d.get? l = some .directory → Fits folder (l.drop m.length) → Found d folder m l
  | link : d.get? l = some (.link t) → d.isDirectory (pathTo folder m l) = .ok true → Found d folder m l

theorem exists_directoriesBelow (hps : d.pathsBelow folder = .ok ps) (hn : ps.Nodup)
    (ha : ∀ p ∈ ps, ∃ b, d.isDirectory p = .ok b) : ∃ qs, directoriesBelow d folder = .ok qs ∧ qs.Nodup ∧
      ∀ p ∈ qs, p ∈ ps ∧ d.isDirectory p = .ok true := by
  obtain ⟨found, hfound, hsub, htrue⟩ := exists_filterM ha
  refine ⟨_, by simp only [directoriesBelow, hps, bind, Except.bind, hfound]; rfl, ?_, fun p hp => ?_⟩
  · exact (List.mergeSort_perm _ _).nodup_iff.2 (hn.sublist hsub)
  · have hp := List.mem_mergeSort.1 hp
    exact ⟨hsub.subset hp, htrue p hp⟩

/-- Cleaning takes directories away only below the folder of the models. -/
theorem below_of_cleanable (hc : Cleanable d folder context l) (hdir : d.get? l = some .directory) :
    ∃ m, d.locate true folder = .ok m ∧ m <+: l ∧ l ≠ m := by
  rcases hc with ⟨file, _, hfile, hloc⟩ | ⟨m, hm, _, hb⟩
  · obtain ⟨k, e, hk, he, hne⟩ := exists_removable_of_isFile hfile
    cases hloc.symm.trans hk
    cases hdir.symm.trans he
    exact absurd rfl hne
  · exact ⟨m, hm, hb⟩

section Navigable

variable (hd : d.Sound) (h : Navigable d folder context) (hj : d.Loses (Cleanable d folder context) d')
  (hm : d.locate true folder = .ok m) (hmd : d.get? m = some .directory)

include hj hm hmd in
theorem get?_folder : d'.get? m = some .directory := by
  rcases hj.get? m with hsame | ⟨_, hc⟩
  · rw [hsame, hmd]
  · obtain ⟨m', hm', _, hne⟩ := below_of_cleanable hc hmd
    cases hm.symm.trans hm'
    exact absurd rfl hne

include h hj hm hmd

theorem exists_paths : ∃ ps, d'.pathsBelow folder = .ok ps ∧ ps.Nodup ∧ ∀ p ∈ ps,
    (∃ l, d'.Below m l ∧ p = pathTo folder m l) ∧ ∃ b, d.isFile p = .ok b := by
  have ha : ∀ l, d'.Below m l → ∃ b, d.isFile (pathTo folder m l) = .ok b := fun l hb =>
    h.answers m l hm (hj.below_of_below hb)
  obtain ⟨ps, hps, hn, hmem⟩ := hj.sound.exists_pathsBelow (h.way m d' hm hmd hj) (get?_folder hj hm hmd)
    fun l hb => hj.exists_test (ha l hb)
  refine ⟨ps, hps, hn, fun p hp => ?_⟩
  obtain ⟨l, hb, rfl⟩ := (hmem p).1 hp
  exact ⟨⟨l, hb, rfl⟩, ha l hb⟩

include hd

theorem exists_found : ∃ ps, directoriesBelow d' folder = .ok ps ∧ ps.Nodup ∧
    ∀ p ∈ ps, ∃ l, d.Below m l ∧ d'.get? l = d.get? l ∧ Found d folder m l ∧ p = pathTo folder m l := by
  obtain ⟨ps, hps, hn, hmem⟩ := exists_paths h hj hm hmd
  have ha : ∀ p ∈ ps, ∃ b, d'.isDirectory p = .ok b := fun p hp =>
    hj.exists_test (exists_test_congr (hmem p hp).2)
  obtain ⟨qs, hqs, hnq, hq⟩ := exists_directoriesBelow hps hn ha
  refine ⟨qs, hqs, hnq, fun p hp => ?_⟩
  obtain ⟨hp, hdir⟩ := hq p hp
  obtain ⟨⟨l, hb, rfl⟩, _⟩ := hmem p hp
  obtain ⟨e, he⟩ := Option.isSome_iff_exists.1 hb.present
  have hed := hj.get?_eq he
  refine ⟨l, hj.below_of_below hb, he.trans hed.symm, ?_, rfl⟩
  -- What leads to a directory now has always done so.
  obtain ⟨k, hk, hkd⟩ := hj.exists_directory hdir
  cases e with
  | link t => exact .link hed (isDirectory_iff.2 ⟨k, hk, hkd⟩)
  | directory | file =>
    rw [hd.locate_pathTo hm hmd (hj.below_of_below hb) hed true (by simp)] at hk
    split at hk
    · next hfits =>
      cases hk
      exact .directory hkd hfits
    · cases hk

omit hd in
/-- The step removes a directory that is empty, and nothing else. -/
theorem exists_pruneDirectory (hb : d.Below m l) (hl : d'.get? l = d.get? l) (hf : Found d folder m l)
    (events : List Event) :
    ∃ d₁, outcome (pruneDirectory (pathTo folder m l)) ⟨d', events⟩ = (.ok (), ⟨d₁, events⟩) ∧
      ∀ k, k ≠ l → d₁.get? k = d'.get? k := by
  cases hf with
  | link ht hdir =>
    obtain ⟨k, hk, hkd, hc⟩ := h.links m l _ hm hb ht hdir d' hj hl
    exact ⟨d', outcome_pruneDirectory_of_children hk hkd hc, fun _ _ => rfl⟩
  | directory hdir hfits =>
    have hdir' := hl.trans hdir
    have hb' : d'.Below m l := ⟨hb.isPrefix, hb.ne, by rw [hdir']; rfl⟩
    have hloc : ∀ followLast, d'.locate followLast (pathTo folder m l) = .ok l := by
      intro followLast
      rw [hj.sound.locate_pathTo (h.way m d' hm hmd hj) (get?_folder hj hm hmd) hb' hdir' followLast
        (by simp), if_pos hfits]
    cases hc : d'.hasChildren l with
    | true => exact ⟨d', outcome_pruneDirectory_of_children (hloc true) hdir' hc, fun _ _ => rfl⟩
    | false =>
      exact ⟨d'.erase l, outcome_pruneDirectory_of_empty hloc hdir' hc, fun k hk => get?_erase_of_ne hk⟩

theorem exists_forM_pruneDirectory (hn : ps.Nodup)
    (hps : ∀ p ∈ ps, ∃ l, d.Below m l ∧ d'.get? l = d.get? l ∧ Found d folder m l ∧ p = pathTo folder m l)
    (events : List Event) : ∃ j', outcome (ps.forM pruneDirectory) ⟨d', events⟩ = (.ok (), j') := by
  -- Every step leaves the directories of those that follow as they were.
  induction ps generalizing d' events with
  | nil => exact ⟨_, rfl⟩
  | cons p ps ih =>
    obtain ⟨hnew, hrest⟩ := List.nodup_cons.1 hn
    obtain ⟨⟨l, hb, hl, hf, rfl⟩, hfound⟩ := List.forall_mem_cons.1 hps
    obtain ⟨d₁, ho, hsame⟩ := exists_pruneDirectory h hj hm hmd hb hl hf events
    have hgiven : ∀ l', d.locate false (pathTo folder m l) = .ok l' → Cleanable d folder context l' := by
      intro l' hl'
      rw [hd.eq_of_locate_pathTo hm hmd hb hl']
      exact .inr ⟨m, hm, hmd, hb.isPrefix, hb.ne⟩
    have hj₁ := pruneDirectory_loses hgiven ⟨d', events⟩ hj
    rw [ho] at hj₁
    rw [outcome_forM_cons, ho]
    refine ih hj₁ hrest (fun q hq => ?_) events
    obtain ⟨k, hbk, hk, hfk, rfl⟩ := hfound q hq
    refine ⟨k, hbk, (hsame k ?_).trans hk, hfk, rfl⟩
    rintro rfl
    exact hnew hq

end Navigable

theorem prune_succeeds (hd : d.Sound) (h : Navigable d folder context) :
    Succeeds (fun j => d.Loses (Cleanable d folder context) j.disk) (prune folder) := by
  refine ask_bind_succeeds (fun j hj => hj.exists_test h.folderAnswers) fun j b hj hb => ?_
  cases b with
  | false => exact ⟨(), rfl⟩
  | true =>
    obtain ⟨m, hm, hmd⟩ := hj.exists_directory hb
    obtain ⟨ps, hps, hn, hfound⟩ := exists_found hd h hj hm hmd
    obtain ⟨j', ho⟩ := exists_forM_pruneDirectory hd h hj hm hmd hn hfound j.events
    refine ⟨(), ?_⟩
    rw [if_pos rfl, outcome_bind, outcome_ask, hps]
    exact congrArg Prod.fst ho

theorem cleanModels_succeeds (hd : d.Sound) (h : Navigable d folder context) :
    Succeeds (fun j => d.Loses (Cleanable d folder context) j.disk) (cleanModels false folder) := by
  refine ask_bind_succeeds (fun j hj => hj.exists_test h.folderAnswers) fun j b hj hb => ?_
  cases b with
  | false => exact ⟨0, rfl⟩
  | true =>
    obtain ⟨m, hm, hmd⟩ := hj.exists_directory hb
    obtain ⟨ps, hps, -, hmem⟩ := exists_paths h hj hm hmd
    have hgiven : ∀ p ∈ ps, ∀ l, d.locate false p = .ok l → Cleanable d folder context l :=
      fun p hp l hl => .inr (hj.below hd hps hp hl)
    have hrest : Succeeds (fun j => d.Loses (Cleanable d folder context) j.disk) (do
        let bytes ← removeFiles false ps
        prune folder
        return bytes) := by
      refine (removeFiles_succeeds (fun p hp => (hmem p hp).2) hgiven).bind
        (removeFiles_preserves fun p hp => removeFile_loses (hgiven p hp)) fun _ => ?_
      exact (prune_succeeds hd h).bind (prune_loses hd) fun _ => .pure _
    rw [if_pos rfl, outcome_bind, outcome_ask, hps]
    exact hrest j hj

theorem cleanContext_succeeds (h : ContextAnswers d context) :
    Succeeds (fun j => d.Loses given j.disk) (cleanContext false context) := by
  cases context with
  | none => exact .pure _
  | some file => exact removeFile_succeeds (h file rfl)

/-- Cleaning comes to its end where it finds its way. -/
theorem cleanOutput_succeeds (hd : d.Sound) (h : Navigable d folder context) (events : List Event) :
    ∃ n, (outcome (cleanOutput false folder context) ⟨d, events⟩).1 = .ok n := by
  have hloses : d.Loses (Cleanable d folder context)
      (outcome (cleanContext false context) ⟨d, events⟩).2.disk := cleanContext_loses hd events
  obtain ⟨n, hn⟩ := cleanContext_succeeds h.contextAnswers ⟨d, events⟩
    (.refl hd : d.Loses (Cleanable d folder context) d)
  rw [cleanOutput, outcome_bind]
  generalize outcome (cleanContext false context) ⟨d, events⟩ = r at hn hloses ⊢
  obtain ⟨_, j⟩ := r
  cases hn
  exact (cleanModels_succeeds hd h).bind (cleanModels_loses hd) (fun _ => .pure _) j hloses

/-- A way that only leads down, and over no links, stays as it is. -/
theorem locate_of_loses_cleanable (hl : d.LinkFree) (hn : ".." ∉ folder.names) (hm : d.locate true folder = .ok m)
    (hmd : d.get? m = some .directory) (hj : d.Loses (Cleanable d folder context) d') :
    d'.locate true folder = .ok m := by
  obtain ⟨hproper, hstops, hend⟩ := hl.locate_directory_iff.1 ⟨hm, hmd⟩
  refine ((hj.linkFree hl).locate_directory_iff.2 ⟨hproper, fun l hway => ?_, ?_⟩).1
  · rw [start_congr hj.home] at hway
    rcases hj.get? l with hsame | ⟨_, hc⟩
    · rw [hsame, hstops l hway]
    · obtain ⟨m', hm', hb, hne⟩ := below_of_cleanable hc (hstops l hway)
      cases hm.symm.trans hm'
      have hp := prefix_of_mem_stops hn hway
      rw [← foldl_step_of_notMem hn, ← hend] at hp
      exact absurd (hp.eq_of_length_le hb.length_le) hne
  · rw [start_congr hj.home, hend]

theorem navigable_of_linkFree (hl : d.LinkFree) (hn : ".." ∉ folder.names) (hc : ContextAnswers d context)
    (hf : ∃ b, d.isDirectory folder = .ok b)
    (ha : ∀ m l, d.locate true folder = .ok m → d.Below m l → ∃ b, d.isFile (pathTo folder m l) = .ok b) :
    Navigable d folder context where
  contextAnswers := hc
  folderAnswers := hf
  answers := ha
  way _ _ hm hmd hj := locate_of_loses_cleanable hl hn hm hmd hj
  links _ l t _ _ ht := absurd ht (hl l t)

end Cleaning
end EntityGen
