import EntityGen.Proofs.Cleaning.Sweep

/-! What pruning takes away where there are no links. -/

namespace EntityGen

namespace Path

theorem sum_le_utf8ByteSize_intercalate (sep : String) (names : List String) :
    (names.map String.utf8ByteSize).sum ≤ (sep.intercalate names).utf8ByteSize := by
  induction names with
  | nil => simp
  | cons name names ih =>
    by_cases hn : names = []
    · simp [hn]
    · rw [String.intercalate_cons_of_ne_nil hn]
      simp only [List.map_cons, List.sum_cons, String.utf8ByteSize_append]
      omega

/-- A path is written with all of its names. -/
theorem sum_le_utf8ByteSize_text (p : Path) : (p.names.map String.utf8ByteSize).sum ≤ p.text.utf8ByteSize := by
  have hle := sum_le_utf8ByteSize_intercalate "/" p.names
  rw [text]
  split
  · next h =>
    simp only [Bool.and_eq_true, decide_eq_true_eq, List.isEmpty_iff] at h
    simp [h.2]
  · rw [String.utf8ByteSize_append]
    omega

end Path

namespace Disk

/-- A directory strictly below a place, with no file in it however deep. -/
structure Vacant (d : Disk) (m l : Place) : Prop where
  directory : d.get? l = some .directory
  isPrefix : m <+: l
  ne : l ≠ m
  noFile : ∀ k, l <+: k → d.file? k = none

/-- What is vacant below a place is gone, and all else is as it was. -/
structure Prunes (d : Disk) (m : Place) (d' : Disk) : Prop where
  home : d'.home = d.home
  gone : ∀ l, d.Vacant m l → d'.get? l = none
  kept : ∀ l, ¬ d.Vacant m l → d'.get? l = d.get? l

/-- No path is too long that goes on from a folder at `m` to what stands there or below. -/
def InReach (d : Disk) (folder : Path) (m : Place) : Prop :=
  ∀ l, m <+: l → (d.get? l).isSome → IsProper (pathTo folder m l)

variable {d : Disk} {folder p : Path} {l m : Place} {rest : List String} {followLast : Bool}

theorem vacant_iff : d.Vacant m l ↔ l ∈ d.directoriesIn m ∧ d.hollow l = true := by
  rw [mem_directoriesIn, hollow_iff]
  constructor
  · exact fun h => ⟨⟨⟨h.isPrefix, h.ne, by rw [h.directory]; rfl⟩, h.directory⟩, h.noFile⟩
  · exact fun h => ⟨h.1.2, h.1.1.isPrefix, h.1.1.ne, h.2⟩

theorem prunes_withoutHollow (d : Disk) (m : Place) : Prunes d m (d.withoutHollow (d.directoriesIn m)) where
  home := rfl
  gone l hv := by
    have hne : l ≠ [] := by
      rintro rfl
      exact hv.ne (List.prefix_nil.1 hv.isPrefix).symm
    obtain ⟨hmem, hh⟩ := vacant_iff.1 hv
    exact get?_without_of hne (by simp [hmem, hh])
  kept l hv := by
    rw [vacant_iff] at hv
    exact get?_without_of_not (by simpa using hv)

@[simp] theorem pathTo_self (folder : Path) (m : Place) : pathTo folder m m = folder := by
  simp [pathTo]

/-- Names of entries make a path no worse than too long. -/
theorem isProper_below_iff (hp : IsProper p) (hrest : ∀ name ∈ rest, IsEntryName name) :
    IsProper (p.below rest) ↔ Fits p rest := by
  constructor
  · exact fun h => ⟨h.2.1, fun name hm => h.2.2 name (List.mem_append_right _ hm) (hrest name hm).1⟩
  · rintro ⟨htext, hsize⟩
    refine ⟨?_, htext, fun name hm hn => ?_⟩
    · have hnul := hp.1
      simp only [Path.hasNul, List.any_eq_false, Path.below] at hnul ⊢
      intro name hm
      rcases List.mem_append.1 hm with hm | hm
      · exact hnul name hm
      · simpa using (hrest name hm).2
    · rcases List.mem_append.1 hm with hm | hm
      · exact hp.2.2 name hm hn
      · exact hsize name hm

theorem FolderAt.inReach_iff (h : d.FolderAt folder m) :
    d.InReach folder m ↔ Cleaning.AllFit folder m (d.placesBelow m) := by
  have hp := (h.linkFree.locate_directory_iff.1 ⟨h.locate, h.directory⟩).1
  have hbelow : ∀ l, d.Below m l → (IsProper (pathTo folder m l) ↔ Fits folder (l.drop m.length)) := by
    intro l hb
    obtain ⟨e, he⟩ := Option.isSome_iff_exists.1 hb.present
    exact isProper_below_iff hp fun name hm => h.sound.isEntryName he (List.mem_of_mem_drop hm)
  constructor
  · intro hr l hl
    have hb := mem_placesBelow_iff_below.1 hl
    exact (hbelow l hb).1 (hr l hb.isPrefix hb.present)
  · intro hfits l hl hs
    by_cases hne : l = m
    · rw [hne, pathTo_self]
      exact hp
    · have hb : d.Below m l := ⟨hl, hne, hs⟩
      exact (hbelow l hb).2 (hfits l (mem_placesBelow_iff_below.2 hb))

/-- Names that lead down to a directory are followed unless they are too long. -/
theorem locate_of_placeOf (hd : d.Sound) (hn : ".." ∉ p.names) (hp : d.get? (d.placeOf p) = some .directory) :
    d.locate followLast p =
      if IsProper p then .ok (d.placeOf p) else .error (.refusal .nameTooLong) := by
  rw [placeOf_eq, foldl_step_of_notMem hn] at hp ⊢
  have hnul : p.hasNul = false := by
    simp only [Path.hasNul, List.any_eq_false]
    intro name hm
    simpa using (hd.isEntryName hp (List.mem_append_right _ hm)).2
  have hdots : ∀ name ∈ p.names, name ≠ ".." := fun name hm hdot => hn (hdot ▸ hm)
  rw [locate, hnul, if_neg Bool.false_ne_true, hd.walk_along hp fun _ _ h => by cases h]
  by_cases htext : pathLimit < p.text.utf8ByteSize
  · rw [if_pos htext, if_neg fun h => Nat.not_lt.2 h.2.1 htext]
  · have hproper : IsProper p ↔ ∀ name ∈ p.names, name.utf8ByteSize ≤ nameLimit :=
      ⟨fun h name hm => h.2.2 name hm (hdots name hm),
        fun h => ⟨hnul, Nat.le_of_not_lt htext, fun name hm _ => h name hm⟩⟩
    rw [if_neg htext]
    simp only [hproper]
    split <;> rfl

end Disk

namespace Cleaning

open Disk Run

variable {d : Disk} {folder : Path} {m : Place} {events : List Event}

theorem directoriesBelow_of_not_allFit (h : d.FolderAt folder m) (hfits : ¬ AllFit folder m (d.placesBelow m)) :
    directoriesBelow d folder = .error .nameTooLong := by
  rw [directoriesBelow]
  rcases pathsBelow_or h with hps | hps
  case inr =>
    rw [hps]
    rfl
  rw [hps]
  simp only [bind, Except.bind]
  cases hf : ((sorted (d.placesBelow m)).map (pathTo folder m)).filterM d.isDirectory with
  | error r =>
    obtain ⟨_, hp, hr⟩ := filterM_eq_error hf
    obtain ⟨l, hl, rfl⟩ := List.mem_map.1 hp
    rw [h.isDirectory_pathTo (mem_sorted_placesBelow.1 hl)] at hr
    split at hr
    · cases hr
    · cases hr
      rfl
  | ok ps =>
    obtain ⟨g, hg, -⟩ := filterM_eq_ok_iff.1 hf
    refine absurd (fun l hl => ?_) hfits
    by_contra hfit
    have hb := mem_placesBelow_iff_below.1 hl
    have ha := hg _ (List.mem_map_of_mem (mem_sorted_placesBelow.2 hb))
    rw [h.isDirectory_pathTo hb, if_neg hfit] at ha
    cases ha

/-- All directories are looked for before the first of them is removed. -/
theorem outcome_prune_of_not_allFit (h : d.FolderAt folder m) (hfits : ¬ AllFit folder m (d.placesBelow m))
    (events : List Event) :
    outcome (prune folder) ⟨d, events⟩ = (.error (.data (.refused .nameTooLong)), ⟨d, events⟩) := by
  rw [prune, outcome_bind, outcome_ask]
  simp only [h.isDirectory, mapError_ok, if_true]
  rw [outcome_bind, outcome_ask]
  simp only [directoriesBelow_of_not_allFit h hfits, mapError_error]

theorem wayKept_of_notMem (h : d.FolderAt folder m) (hn : ".." ∉ folder.names) :
    d.WayKept folder (d.directoriesIn m).dropLast :=
  fun l hl _ hs => not_undercut_of_notMem h.linkFree hn ⟨m, h.locate, l, hl, hs⟩

/-! Where there are no links and the path to the folder does not lead back, all hangs on the lengths of paths. -/

section Reach

variable (hd : d.Sound) (hl : d.LinkFree) (hn : ".." ∉ folder.names)
  (hm : d.get? (d.placeOf folder) = some .directory)

include hd hl hn hm

theorem folderAt_of_isProper (hp : IsProper folder) : d.FolderAt folder (d.placeOf folder) :=
  ⟨hd, hl, by rw [locate_of_placeOf hd hn hm, if_pos hp], hm⟩

theorem exists_prunes (hr : d.InReach folder (d.placeOf folder)) (events : List Event) :
    ∃ d', outcome (prune folder) ⟨d, events⟩ = (.ok (), ⟨d', events⟩) ∧ Prunes d (d.placeOf folder) d' := by
  have hp := hr _ (List.prefix_refl _) (by rw [hm]; rfl)
  rw [pathTo_self] at hp
  have h := folderAt_of_isProper hd hl hn hm hp
  exact ⟨_, outcome_prune h (h.inReach_iff.1 hr) (wayKept_of_notMem h hn) events, prunes_withoutHollow d _⟩

theorem outcome_prune_of_not_inReach (hr : ¬ d.InReach folder (d.placeOf folder)) (events : List Event) :
    outcome (prune folder) ⟨d, events⟩ = (.error (.data (.refused .nameTooLong)), ⟨d, events⟩) := by
  by_cases hp : IsProper folder
  · have h := folderAt_of_isProper hd hl hn hm hp
    exact outcome_prune_of_not_allFit h (fun hfits => hr (h.inReach_iff.2 hfits)) events
  · have hlong : d.isDirectory folder = .error .nameTooLong :=
      test_eq_error_iff.2 ⟨rfl, by rw [locate_of_placeOf hd hn hm, if_neg hp]⟩
    rw [prune, outcome_bind, outcome_ask, hlong]
    rfl

end Reach

/-- A directory in an empty one, next to a directory with a file. -/
def layeredDisk : Disk where
  home := ["w"]
  entries := [(["w"], .directory), (["w", "m"], .directory), (["w", "m", "a"], .directory),
    (["w", "m", "a", "b"], .directory), (["w", "m", "s"], .directory), (["w", "m", "s", "t"], .file "t".toUTF8)]

theorem layeredDisk_sound : layeredDisk.Sound := by
  apply sound_of_entries
  · decide
  · decide
  · simp [layeredDisk, IsEntryName]
  · simp [layeredDisk]
  · rfl

theorem layeredDisk_linkFree : layeredDisk.LinkFree := by
  apply linkFree_of_entries
  simp [layeredDisk]

theorem layeredDisk_inReach : layeredDisk.InReach ⟨0, ["m"]⟩ ["w", "m"] := by
  have hlocate : layeredDisk.locate true ⟨0, ["m"]⟩ = .ok ["w", "m"] := by
    rw [locate_of_placeOf layeredDisk_sound (by decide) rfl,
      if_pos ⟨by simp [Path.hasNul], by decide +kernel, by decide +kernel⟩]
    rfl
  rw [FolderAt.inReach_iff ⟨layeredDisk_sound, layeredDisk_linkFree, hlocate, rfl⟩, AllFit]
  decide +kernel

/-- As many directories as said, each but the first in the one before. -/
def deepDisk (n : Nat) : Disk where
  home := ["w"]
  entries := (List.range n).map fun k => ("w" :: List.replicate k "n", .directory)

theorem eq_directory_of_deepDisk {n : Nat} {l : Place} {e : Entry} (h : (deepDisk n).get? l = some e) :
    e = .directory := by
  rw [get?] at h
  split at h
  · cases h
    rfl
  · obtain ⟨k, -, hk⟩ := List.mem_map.1 (mem_of_find? h)
    exact (Prod.mk.inj hk).2.symm

theorem get?_deepDisk {n k : Nat} (h : k < n) :
    (deepDisk n).get? ("w" :: List.replicate k "n") = some .directory := by
  have hmem : "w" :: List.replicate k "n" ∈ (deepDisk n).entries.map (·.1) := by
    rw [deepDisk, List.map_map]
    exact List.mem_map.2 ⟨k, List.mem_range.2 h, rfl⟩
  obtain ⟨e, he⟩ := Option.isSome_iff_exists.1 (get?_of_mem hmem)
  rw [he, eq_directory_of_deepDisk he]

theorem deepDisk_linkFree (n : Nat) : (deepDisk n).LinkFree := by
  apply linkFree_of_entries
  simp [deepDisk]

theorem deepDisk_sound {n : Nat} (hn : 0 < n) : (deepDisk n).Sound := by
  apply sound_of_entries
  · rw [deepDisk, List.map_map]
    refine List.Nodup.map (fun k l h => ?_) List.nodup_range
    simpa using congrArg List.length h
  · intro e he
    obtain ⟨k, hk, rfl⟩ := List.mem_map.1 he
    refine ⟨List.cons_ne_nil _ _, ?_⟩
    cases k with
    | zero => rfl
    | succ k =>
      rw [List.replicate_succ', ← List.cons_append, List.dropLast_concat]
      exact get?_deepDisk (Nat.lt_of_succ_lt (List.mem_range.1 hk))
  · intro e he name hname
    obtain ⟨k, _, rfl⟩ := List.mem_map.1 he
    rcases List.mem_cons.1 hname with rfl | hname
    · simp [IsEntryName]
    · rw [List.eq_of_mem_replicate hname]
      simp [IsEntryName]
  · simp [deepDisk]
  · exact get?_deepDisk hn

/-- The path to the last of the directories has four thousand and ninety-six names. -/
theorem not_inReach_deepDisk : ¬ (deepDisk 4097).InReach ⟨0, ["n"]⟩ ["w", "n"] := by
  intro h
  have hdeep : "w" :: List.replicate 4096 "n" = ["w", "n"] ++ List.replicate 4095 "n" := rfl
  have hp := h ("w" :: List.replicate 4096 "n") ⟨_, hdeep.symm⟩ (by rw [get?_deepDisk (by decide)]; rfl)
  have hnames : (pathTo ⟨0, ["n"]⟩ ["w", "n"] ("w" :: List.replicate 4096 "n")).names = List.replicate 4096 "n" := rfl
  have hsize : "n".utf8ByteSize = 1 := by decide +kernel
  have hsum := Path.sum_le_utf8ByteSize_text (pathTo ⟨0, ["n"]⟩ ["w", "n"] ("w" :: List.replicate 4096 "n"))
  rw [hnames, List.map_replicate, hsize, List.sum_replicate, smul_eq_mul] at hsum
  have htext := hp.2.1
  simp only [pathLimit] at htext
  omega

end Cleaning
end EntityGen
