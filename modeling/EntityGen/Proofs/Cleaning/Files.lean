import Mathlib.Algebra.GroupWithZero.Nat
import EntityGen.Cleaning
import EntityGen.Proofs.Disk.Action
import EntityGen.Proofs.Disk.Without
import EntityGen.Proofs.Run

/-! Removing the files below a folder where there are no links. -/

namespace EntityGen

namespace Disk

/-- The disk without those of some places that are files. -/
def withoutFiles (d : Disk) (ls : List Place) : Disk :=
  d.without fun l => ls.contains l && (d.file? l).isSome

/-- A folder on a sound disk without links is the directory at a place. -/
structure FolderAt (d : Disk) (folder : Path) (m : Place) : Prop where
  sound : d.Sound
  linkFree : d.LinkFree
  locate : d.locate true folder = .ok m
  directory : d.get? m = some .directory

/-- The path that goes on from a folder at `m` to a place below it. -/
def pathTo (folder : Path) (m l : Place) : Path := folder.below (l.drop m.length)

/-- Something stands strictly below a place. -/
structure Below (d : Disk) (m l : Place) : Prop where
  isPrefix : m <+: l
  ne : l ≠ m
  present : (d.get? l).isSome

variable {d : Disk} {folder : Path} {m l : Place} {ls : List Place} {gone : Place → Bool}

theorem mem_placesBelow_iff_below : l ∈ d.placesBelow m ↔ d.Below m l := by
  rw [mem_placesBelow_iff]
  constructor
  · rintro ⟨hl, rest, hr, rfl⟩
    exact ⟨List.prefix_append m rest, by simpa using hr, get?_of_mem hl⟩
  · rintro ⟨⟨rest, rfl⟩, hne, hp⟩
    obtain ⟨e, he⟩ := Option.isSome_iff_exists.1 hp
    have hr : rest ≠ [] := by simpa using hne
    exact ⟨mem_of_get? (by simp [hr]) he, rest, hr, rfl⟩

theorem Below.drop_ne_nil (hb : d.Below m l) : l.drop m.length ≠ [] := by
  obtain ⟨⟨rest, rfl⟩, hne, _⟩ := hb
  simpa using hne

theorem Below.append_drop (hb : d.Below m l) : m ++ l.drop m.length = l := by
  obtain ⟨⟨rest, rfl⟩, _, _⟩ := hb
  simp

theorem Below.length_lt (hb : d.Below m l) : m.length < l.length := by
  refine Nat.lt_of_le_of_ne hb.isPrefix.length_le fun hlen => ?_
  exact hb.ne (hb.isPrefix.eq_of_length hlen).symm

theorem withoutFiles_nil (d : Disk) : d.withoutFiles [] = d := by
  simp [withoutFiles]

theorem file?_withoutFiles (d : Disk) (ls : List Place) (l : Place) :
    (d.withoutFiles ls).file? l = if l ∈ ls then none else d.file? l := by
  by_cases hl : l ∈ ls
  · rw [if_pos hl]
    cases hf : d.file? l with
    | none =>
      rw [file?, withoutFiles, get?_without_of_not (by simp [hf])]
      exact hf
    | some content =>
      have hne : l ≠ [] := by rintro rfl; cases hf
      rw [file?, withoutFiles, get?_without_of hne (by simp [hl, hf])]
  · rw [if_neg hl, file?, withoutFiles, get?_without_of_not (by simp [hl]), file?]

theorem get?_withoutFiles_of_not_mem (d : Disk) (hl : l ∉ ls) : (d.withoutFiles ls).get? l = d.get? l :=
  get?_without_of_not (by simp [hl])

theorem withoutFiles_cons (d : Disk) (l : Place) (ls : List Place) :
    (d.withoutFiles [l]).withoutFiles ls = d.withoutFiles (l :: ls) := by
  rw [withoutFiles, withoutFiles, without_without, withoutFiles]
  apply without_congr
  intro k _
  change (_ || (_ && ((d.withoutFiles [l]).file? k).isSome)) = _
  rw [file?_withoutFiles]
  by_cases hk : k = l <;> simp [hk]

theorem withoutFiles_singleton (d : Disk) (l : Place) :
    d.withoutFiles [l] = if (d.file? l).isSome then d.erase l else d := by
  split
  · next hf =>
    rw [erase_eq_without, withoutFiles]
    apply without_congr
    intro k _
    by_cases hk : k = l <;> simp [hk, hf]
  · next hf =>
    rw [withoutFiles, ← without_false d, without_without]
    apply without_congr
    intro k _
    by_cases hk : k = l <;> simp [hk, hf]

theorem Sound.locate_pathTo {e : Entry} (h : d.Sound) (hm : d.locate true folder = .ok m)
    (hmd : d.get? m = some .directory) (hb : d.Below m l) (he : d.get? l = some e) (followLast : Bool)
    (hf : followLast = true → ∀ t, e ≠ .link t) :
    d.locate followLast (pathTo folder m l) =
      if Fits folder (l.drop m.length) then .ok l else .error (.refusal .nameTooLong) := by
  rw [← hb.append_drop] at he
  rw [pathTo, h.locate_below followLast hm hmd hb.drop_ne_nil he hf, hb.append_drop]

theorem pathsBelow_eq (hm : d.locate true folder = .ok m) (hmd : d.get? m = some .directory) :
    d.pathsBelow folder = d.pathsOf (pathTo folder m) (sorted (d.placesBelow m)) := by
  simp only [Disk.pathsBelow, isDirectory_iff.2 ⟨m, hm, hmd⟩, hm, bind, Except.bind, if_true]
  rfl

theorem mem_sorted_placesBelow : l ∈ sorted (d.placesBelow m) ↔ d.Below m l :=
  (sorted_perm _).mem_iff.trans mem_placesBelow_iff_below

theorem Sound.nodup_sorted_placesBelow (h : d.Sound) (m : Place) : (sorted (d.placesBelow m)).Nodup :=
  (sorted_perm _).nodup_iff.2 (h.nodup_placesBelow m)

/-- Where every path below a folder can be asked about, all of them are found. -/
theorem pathsBelow_of_answers (hm : d.locate true folder = .ok m) (hmd : d.get? m = some .directory)
    {q : Entry → Bool} (ha : ∀ l, d.Below m l → ∃ b, d.test q (pathTo folder m l) = .ok b) :
    d.pathsBelow folder = .ok ((sorted (d.placesBelow m)).map (pathTo folder m)) := by
  rw [pathsBelow_eq hm hmd]
  exact pathsOf_eq_ok_iff.2 ⟨rfl, fun l hl _ => exists_test_congr (ha l (mem_sorted_placesBelow.1 hl))⟩

namespace FolderAt

/-- Taking files away leaves a folder where it is. -/
theorem without (h : d.FolderAt folder m) (hg : ∀ l, gone l = true → d.get? l ≠ some .directory) :
    (d.without gone).FolderAt folder m := by
  have hdir : ∀ l, d.get? l = some .directory → (d.without gone).get? l = some .directory := by
    intro l hl
    rw [get?_without_of_not, hl]
    exact Bool.eq_false_iff.2 fun hc => hg l hc hl
  have hl := h.linkFree.without gone
  have hw := h.linkFree.locate_directory_iff.1 ⟨h.locate, h.directory⟩
  have hm : (d.without gone).locate true folder = .ok m ∧ _ :=
    hl.locate_directory_iff.2 ⟨hw.1, fun k hk => hdir k (hw.2.1 k hk), hw.2.2⟩
  refine ⟨h.sound.without fun l name hgl hs => ?_, hl, hm.1, hm.2⟩
  rw [h.sound.get?_child (hg l hgl)] at hs
  cases hs

theorem withoutFiles (h : d.FolderAt folder m) (ls : List Place) : (d.withoutFiles ls).FolderAt folder m := by
  refine h.without fun l hl hd => ?_
  simp [file?, hd] at hl

theorem locate_pathTo (h : d.FolderAt folder m) (hb : d.Below m l) (followLast : Bool) :
    d.locate followLast (pathTo folder m l) =
      if Fits folder (l.drop m.length) then .ok l else .error (.refusal .nameTooLong) := by
  obtain ⟨e, he⟩ := Option.isSome_iff_exists.1 hb.present
  exact h.sound.locate_pathTo h.locate h.directory hb he followLast fun _ t ht => h.linkFree l t (ht ▸ he)

theorem test_pathTo (h : d.FolderAt folder m) (hb : d.Below m l) {e : Entry} (he : d.get? l = some e)
    (q : Entry → Bool) : d.test q (pathTo folder m l) =
      if Fits folder (l.drop m.length) then .ok (q e) else .error .nameTooLong := by
  rw [test, entry, h.locate_pathTo hb]
  by_cases hf : Fits folder (l.drop m.length) <;> simp [hf, bind, Except.bind, he]

theorem isFile_pathTo (h : d.FolderAt folder m) (hb : d.Below m l) : d.isFile (pathTo folder m l) =
    if Fits folder (l.drop m.length) then .ok (d.file? l).isSome else .error .nameTooLong := by
  obtain ⟨e, he⟩ := Option.isSome_iff_exists.1 hb.present
  rw [isFile, h.test_pathTo hb he, file?, he]
  cases e <;> rfl

theorem isDirectory_pathTo (h : d.FolderAt folder m) (hb : d.Below m l) :
    d.isDirectory (pathTo folder m l) =
      if Fits folder (l.drop m.length) then .ok (decide (d.get? l = some .directory))
      else .error .nameTooLong := by
  obtain ⟨e, he⟩ := Option.isSome_iff_exists.1 hb.present
  rw [isDirectory, h.test_pathTo hb he, he]
  cases e <;> simp

theorem isDirectory (h : d.FolderAt folder m) : d.isDirectory folder = .ok true :=
  isDirectory_iff.2 ⟨m, h.locate, h.directory⟩

end FolderAt
end Disk

namespace Cleaning

open Disk Run

variable {d : Disk} {folder p : Path} {m l : Place} {ls : List Place} {events : List Event}

/-- What a mode leaves of a disk when some places have been looked at. -/
def leaves (dry : Bool) (d : Disk) (ls : List Place) : Disk := if dry then d else d.withoutFiles ls

theorem outcome_removeFile_of_isFile (hl : d.LinkFree) (hp : d.locate true p = .ok l)
    (hf : (d.file? l).isSome) (dry : Bool) (events : List Event) :
    ∃ events', outcome (removeFile dry p) ⟨d, events⟩ = (.ok (d.sizeAt l), ⟨leaves dry d [l], events'⟩) := by
  obtain ⟨content, hc⟩ := Option.isSome_iff_exists.1 hf
  have he := file?_eq_some_iff.1 hc
  have hq : d.isFile p = .ok true := isFile_iff.2 ⟨l, content, hp, he⟩
  have hs : fileSize d p = d.sizeAt l := by
    simp [fileSize, Disk.read, entry, hp, he, sizeAt, hc, bind, Except.bind]
  simp only [removeFile, outcome_bind, outcome_ask, hq, mapError_ok, if_true, outcome_get, hs]
  cases dry with
  | true =>
    refine ⟨events ++ [.wouldRemove p (d.sizeAt l)], ?_⟩
    simp [outcome_map, outcome_note, Except.map, leaves]
  | false =>
    refine ⟨events, ?_⟩
    rw [hl.locate_eq true false] at hp
    simp [outcome_map, outcome_act, Action.outcome_removeFile, hp, he, Except.map, leaves,
      withoutFiles_singleton, hf]

theorem outcome_removeFile_pathTo (h : d.FolderAt folder m) (hb : d.Below m l)
    (hfits : Fits folder (l.drop m.length)) (dry : Bool) (events : List Event) :
    ∃ events', outcome (removeFile dry (pathTo folder m l)) ⟨d, events⟩ =
      (.ok (d.sizeAt l), ⟨leaves dry d [l], events'⟩) := by
  by_cases hf : (d.file? l).isSome
  · have hp := h.locate_pathTo hb true
    rw [if_pos hfits] at hp
    exact outcome_removeFile_of_isFile h.linkFree hp hf dry events
  · have hq := h.isFile_pathTo hb
    rw [if_pos hfits, Bool.eq_false_iff.2 hf] at hq
    rw [Bool.not_eq_true, Option.isSome_eq_false_iff, Option.isNone_iff_eq_none] at hf
    refine ⟨events, ?_⟩
    simp only [removeFile, outcome_bind, outcome_ask, hq]
    simp [leaves, withoutFiles_singleton, sizeAt, hf]

/-- Every path that goes on from the folder to one of the places is short enough. -/
def AllFit (folder : Path) (m : Place) (ls : List Place) : Prop :=
  ∀ l ∈ ls, Fits folder (l.drop m.length)

theorem pathsBelow_of_allFit (h : d.FolderAt folder m) (hfits : AllFit folder m (d.placesBelow m)) :
    d.pathsBelow folder = .ok ((sorted (d.placesBelow m)).map (pathTo folder m)) := by
  refine pathsBelow_of_answers h.locate h.directory fun l hb => ⟨_, (h.isFile_pathTo hb).trans (if_pos ?_)⟩
  exact hfits l (mem_placesBelow_iff_below.2 hb)

/-- A path that is too long is found out when it is asked about, if not when the paths are looked for. -/
theorem pathsBelow_or (h : d.FolderAt folder m) :
    d.pathsBelow folder = .ok ((sorted (d.placesBelow m)).map (pathTo folder m)) ∨
      d.pathsBelow folder = .error .nameTooLong := by
  rw [pathsBelow_eq h.locate h.directory]
  cases hps : d.pathsOf (pathTo folder m) (sorted (d.placesBelow m)) with
  | ok ps => exact .inl (congrArg _ (pathsOf_eq_ok_iff.1 hps).1)
  | error r => exact .inr (congrArg _ (eq_of_pathsOf_eq_error hps))

theorem removeFile_of_not_fit (h : d.FolderAt folder m) (hb : d.Below m l)
    (hfits : ¬ Fits folder (l.drop m.length)) (dry : Bool) (j : Journal) (hj : j.disk = d) :
    outcome (removeFile dry (pathTo folder m l)) j = (.error (.data (.refused .nameTooLong)), j) := by
  have hq := h.isFile_pathTo hb
  rw [if_neg hfits] at hq
  simp [removeFile, outcome_bind, outcome_ask, hj, hq]

theorem leaves_nil (dry : Bool) (d : Disk) : leaves dry d [] = d := by
  cases dry with
  | true => rfl
  | false => exact withoutFiles_nil d

theorem leaves_cons (dry : Bool) (d : Disk) (l : Place) (ls : List Place) :
    leaves dry (leaves dry d [l]) ls = leaves dry d (l :: ls) := by
  cases dry with
  | true => rfl
  | false => exact withoutFiles_cons d l ls

theorem get?_leaves (dry : Bool) (d : Disk) (hl : l ∉ ls) : (leaves dry d ls).get? l = d.get? l := by
  cases dry with
  | true => rfl
  | false => exact get?_withoutFiles_of_not_mem d hl

theorem folderAt_leaves (h : d.FolderAt folder m) (dry : Bool) (ls : List Place) :
    (leaves dry d ls).FolderAt folder m := by
  cases dry with
  | true => exact h
  | false => exact h.withoutFiles ls

theorem below_leaves (hb : ∀ k ∈ ls, d.Below m k) (hl : l ∉ ls) (dry : Bool) :
    ∀ k ∈ ls, (leaves dry d [l]).Below m k := by
  intro k hk
  have hkl : k ∉ [l] := fun hkl => hl (List.mem_singleton.1 hkl ▸ hk)
  exact ⟨(hb k hk).isPrefix, (hb k hk).ne, by rw [get?_leaves dry d hkl]; exact (hb k hk).present⟩

theorem map_sizeAt_leaves (hl : l ∉ ls) (dry : Bool) : ls.map (leaves dry d [l]).sizeAt = ls.map d.sizeAt := by
  apply List.map_congr_left
  intro k hk
  apply sizeAt_congr
  apply get?_leaves
  exact fun hkl => hl (List.mem_singleton.1 hkl ▸ hk)

theorem outcome_removeFiles (h : d.FolderAt folder m) (hb : ∀ l ∈ ls, d.Below m l) (hn : ls.Nodup)
    (hfits : AllFit folder m ls) (dry : Bool) (events : List Event) :
    ∃ events', outcome (removeFiles dry (ls.map (pathTo folder m))) ⟨d, events⟩ =
      (.ok (ls.map d.sizeAt).sum, ⟨leaves dry d ls, events'⟩) := by
  induction ls generalizing d events with
  | nil => exact ⟨events, by simp [removeFiles, leaves_nil]⟩
  | cons l ls ih =>
    obtain ⟨hbl, hb⟩ := List.forall_mem_cons.1 hb
    obtain ⟨hl, hn⟩ := List.nodup_cons.1 hn
    obtain ⟨hfl, hfits⟩ := List.forall_mem_cons.1 hfits
    obtain ⟨events₁, h₁⟩ := outcome_removeFile_pathTo h hbl hfl dry events
    obtain ⟨events₂, h₂⟩ := ih (folderAt_leaves h dry [l]) (below_leaves hb hl dry) hn hfits events₁
    rw [map_sizeAt_leaves hl, leaves_cons] at h₂
    refine ⟨events₂, ?_⟩
    rw [List.map_cons, removeFiles, outcome_bind, h₁]
    dsimp only
    rw [outcome_bind, h₂]
    simp

theorem removeFiles_of_not_allFit (h : d.FolderAt folder m) (hb : ∀ l ∈ ls, d.Below m l) (hn : ls.Nodup)
    (hfits : ¬ AllFit folder m ls) (dry : Bool) (events : List Event) :
    (outcome (removeFiles dry (ls.map (pathTo folder m))) ⟨d, events⟩).1 =
      .error (.data (.refused .nameTooLong)) := by
  induction ls generalizing d events with
  | nil => exact absurd (fun l hl => by cases hl) hfits
  | cons l ls ih =>
    obtain ⟨hbl, hb⟩ := List.forall_mem_cons.1 hb
    obtain ⟨hl, hn⟩ := List.nodup_cons.1 hn
    rw [List.map_cons, removeFiles, outcome_bind]
    by_cases hfl : Fits folder (l.drop m.length)
    · have hfits : ¬ AllFit folder m ls := fun hf => hfits (List.forall_mem_cons.2 ⟨hfl, hf⟩)
      obtain ⟨events₁, h₁⟩ := outcome_removeFile_pathTo h hbl hfl dry events
      have h₂ := ih (folderAt_leaves h dry [l]) (below_leaves hb hl dry) hn hfits events₁
      rw [h₁]
      dsimp only
      rw [outcome_bind]
      generalize outcome (removeFiles dry (ls.map (pathTo folder m))) ⟨leaves dry d [l], events₁⟩ = r at h₂ ⊢
      rcases r with ⟨_ | _, _⟩
      · exact h₂
      · cases h₂
    · rw [removeFile_of_not_fit h hbl hfl dry _ rfl]

end Cleaning
end EntityGen
