import EntityGen.Proofs.Cleaning.Progress
import EntityGen.Proofs.Disk.Hanging

/-! Which files, and which links to files, are removed from a folder where there may be links. -/

namespace EntityGen

namespace Disk

/-- A folder on a sound disk is the directory at a place, and no path to what is below it is too long. -/
structure Searchable (d : Disk) (folder : Path) (m : Place) : Prop where
  sound : d.Sound
  locate : d.locate true folder = .ok m
  directory : d.get? m = some .directory
  answers : ∀ l, d.Below m l → ∃ b, d.isFile (pathTo folder m l) = .ok b

/-- Without the entry at a place a path does not lead to a file. -/
def HangsOn (d : Disk) (p : Path) (l : Place) : Prop := (d.erase l).isFile p ≠ .ok true

/-- A place has its turn before another one. -/
def Before (k l : Place) : Prop := placeLe k l ∧ k ≠ l

variable {d d' : Disk} {folder p : Path} {k l m : Place} {n : Nat} {rest : List String} {t : Path} {e : Entry}

theorem Before.asymm (h : Before k l) : ¬Before l k := fun h' => h.2 (placeLe_antisymm k l h.1 h'.1)

/-- The way along the names of a link goes on where the link leads. -/
theorem Sound.exists_leads_link (h : d.Sound) (ht : d.get? (m ++ rest) = some (.link t)) (hr : rest ≠ [])
    (hl : Leads d true n m rest l) : ∃ n, Leads d true n (linkStart (m ++ rest).dropLast t) t.names l := by
  induction rest generalizing m with
  | nil => exact absurd rfl hr
  | cons name rest ih =>
    have hn : name ≠ ".." := (h.isEntryName ht (by simp)).1
    by_cases hrest : rest = []
    · subst hrest
      obtain ⟨n', -, hl⟩ := hl.of_follow hn ht
      rw [List.append_nil] at hl
      exact ⟨n', by rwa [List.dropLast_concat]⟩
    · rw [List.append_cons] at ht ⊢
      exact ih ht hrest (hl.of_enter hn (h.get?_of_append hrest ht) nofun)

namespace Searchable

variable (h : d.Searchable folder m)

include h

theorem fits (hb : d.Below m l) (he : d.get? l = some e) (hl : ∀ t, e ≠ .link t) :
    Fits folder (l.drop m.length) := by
  by_contra hfits
  have hlong := h.sound.locate_pathTo h.locate h.directory hb he true fun _ => hl
  rw [if_neg hfits] at hlong
  exact exists_test_iff.1 (h.answers l hb) hlong

theorem locate_pathTo (hb : d.Below m l) (he : d.get? l = some e) (hl : ∀ t, e ≠ .link t) (followLast : Bool) :
    d.locate followLast (pathTo folder m l) = .ok l := by
  rw [h.sound.locate_pathTo h.locate h.directory hb he followLast fun _ => hl, if_pos (h.fits hb he hl)]

theorem isFile_of_file {content : ByteArray} (hb : d.Below m l) (he : d.get? l = some (.file content)) :
    d.isFile (pathTo folder m l) = .ok true :=
  isFile_iff.2 ⟨l, content, h.locate_pathTo hb he nofun true, he⟩

theorem isFileLike (hb : d.Below m l) (hf : d.isFile (pathTo folder m l) = .ok true) : d.IsFileLike l := by
  obtain ⟨f, content, hl, hf⟩ := isFile_iff.1 hf
  obtain ⟨e, he⟩ := Option.isSome_iff_exists.1 hb.present
  cases e with
  | file content => exact .inl ⟨content, he⟩
  | directory =>
    cases hl.symm.trans (h.locate_pathTo hb he nofun true)
    cases he.symm.trans hf
  | link t =>
    obtain ⟨j, hj⟩ := (locate_eq_ok_iff.1 h.locate).2.2.walk_append h.directory hb.drop_ne_nil
    have hl := (hj true).symm.trans (locate_eq_ok_iff.1 hl).2.2.walk
    rw [← hb.append_drop] at he
    obtain ⟨n, hn⟩ := h.sound.exists_leads_link he hb.drop_ne_nil (walk_eq_ok_iff.1 hl)
    rw [hb.append_drop] at he hn
    exact .inr ⟨t, n, f, content, he, hn, hf⟩

/-- A folder stays where it is when files and links to files get lost. -/
theorem of_loses (hj : d.Loses d.IsFileLike d') : d'.Searchable folder m where
  sound := hj.sound
  locate := hj.locate_directory h.locate h.directory
  directory := hj.get?_of_directory (fun _ => IsFileLike.not_directory) h.directory
  answers l hb := hj.exists_test (h.answers l (hj.below_of_below hb))

end Searchable
end Disk

namespace Cleaning

open Disk Run

/-- Of some places below a folder those that lead to files are emptied one after another. One remains if that
cuts its way before it has its turn, and only then. -/
structure Strips (d : Disk) (folder : Path) (m : Place) (xs : List Place) (d' : Disk) : Prop where
  loses : d.Loses (fun l => l ∈ xs ∧ d.isFile (pathTo folder m l) = .ok true) d'
  remains : ∀ l ∈ xs, d.isFile (pathTo folder m l) = .ok true →
    ((d'.get? l).isSome ↔ ∃ k ∈ xs, Before k l ∧ d'.get? k = none ∧ d.HangsOn (pathTo folder m l) k)

variable {d d' : Disk} {folder : Path} {k l m : Place} {xs ys : List Place} {events : List Event}

namespace Strips

theorem nil (hd : d.Sound) : Strips d folder m [] d := ⟨.refl hd, nofun⟩

theorem get?_of_notMem (h : Strips d folder m xs d') (hl : l ∉ xs) : d'.get? l = d.get? l :=
  (h.loses.get? l).resolve_right fun hgone => hl hgone.2.1

theorem loses_concat (h : Strips d folder m xs d') (l : Place) :
    d.Loses (fun k => k ∈ xs ++ [l] ∧ d.isFile (pathTo folder m k) = .ok true) d' :=
  ⟨h.loses.sound, h.loses.home, fun k => (h.loses.get? k).imp_right fun hgone =>
    ⟨hgone.1, List.mem_append_left _ hgone.2.1, hgone.2.2⟩⟩

variable (hs : d.Searchable folder m) (h : Strips d folder m xs d') (hb : ∀ k ∈ xs, d.Below m k)

include hs h hb

theorem loses_fileLike : d.Loses d.IsFileLike d' :=
  ⟨h.loses.sound, h.loses.home, fun l => (h.loses.get? l).imp_right fun hgone =>
    ⟨hgone.1, hs.isFileLike (hb l hgone.2.1) hgone.2.2⟩⟩

/-- A place leads to a file when it has its turn if that did not hang on what is gone by then. -/
theorem isFile_iff : d'.isFile (pathTo folder m l) = .ok true ↔ d.isFile (pathTo folder m l) = .ok true ∧
    ¬∃ k ∈ xs, d'.get? k = none ∧ d.HangsOn (pathTo folder m l) k := by
  rw [(h.loses_fileLike hs hb).isFile_iff fun k hk => hk.not_directory]
  refine and_congr_right fun _ => ?_
  simp only [HangsOn, not_exists, not_and, not_not]
  constructor
  · intro hall k hk hnone
    refine hall k fun hsame => ?_
    exact Option.not_isSome_iff_eq_none.2 (hsame.symm.trans hnone) (hb k hk).present
  · intro hall k hne
    obtain ⟨hnone, hk, -⟩ := (h.loses.get? k).resolve_left hne
    exact hall k hk hnone

variable (hx : ∀ k ∈ xs, Before k l) (hbl : d.Below m l)

include hx hbl

/-- The entry at a place leads to a file when it has its turn, and goes. -/
theorem erase (hf : d'.isFile (pathTo folder m l) = .ok true) : Strips d folder m (xs ++ [l]) (d'.erase l) := by
  obtain ⟨hfile, hnone⟩ := (h.isFile_iff hs hb).1 hf
  have hne : l ≠ [] := fun hnil => Nat.not_lt_zero _ (hnil ▸ hbl.length_lt)
  have hdir : d'.get? l ≠ some .directory := by
    rw [h.get?_of_notMem fun hmem => (hx l hmem).2 rfl]
    exact (hs.isFileLike hbl hfile).not_directory
  have hxs : ∀ {j}, j ∈ xs ++ [l] → j ≠ l → j ∈ xs := fun hj hjl =>
    (List.mem_append.1 hj).resolve_right fun h => hjl (List.mem_singleton.1 h)
  refine ⟨(h.loses_concat l).erase ⟨by simp, hfile⟩ (h.loses.sound.get?_child hdir), fun k hk hkf => ?_⟩
  rcases List.mem_append.1 hk with hk | hk
  · rw [get?_erase_of_ne (hx k hk).2, h.remains k hk hkf]
    constructor
    · rintro ⟨j, hj, hjk, hgone, hangs⟩
      exact ⟨j, List.mem_append_left _ hj, hjk, by rw [get?_erase_of_ne (hx j hj).2, hgone], hangs⟩
    · rintro ⟨j, hj, hjk, hgone, hangs⟩
      have hjl : j ≠ l := fun hjl => (hx k hk).asymm (hjl ▸ hjk)
      rw [get?_erase_of_ne hjl] at hgone
      exact ⟨j, hxs hj hjl, hjk, hgone, hangs⟩
  · obtain rfl := List.mem_singleton.1 hk
    rw [get?_erase_self hne]
    refine iff_of_false nofun ?_
    rintro ⟨j, hj, hjl, hgone, hangs⟩
    rw [get?_erase_of_ne hjl.2] at hgone
    exact hnone ⟨j, hxs hj hjl.2, hgone, hangs⟩

/-- The entry at a place leads to no file when it has its turn, and stays. -/
theorem keep (hf : d'.isFile (pathTo folder m l) ≠ .ok true) : Strips d folder m (xs ++ [l]) d' := by
  have hl : (d'.get? l).isSome := by
    rw [h.get?_of_notMem fun hmem => (hx l hmem).2 rfl]
    exact hbl.present
  have hxs : ∀ {j}, j ∈ xs ++ [l] → d'.get? j = none → j ∈ xs := fun hj hgone =>
    (List.mem_append.1 hj).resolve_right fun hjl => by
      rw [← List.mem_singleton.1 hjl, hgone] at hl
      cases hl
  refine ⟨h.loses_concat l, fun k hk hkf => ?_⟩
  rcases List.mem_append.1 hk with hk | hk
  · rw [h.remains k hk hkf]
    constructor
    · rintro ⟨j, hj, hj'⟩
      exact ⟨j, List.mem_append_left _ hj, hj'⟩
    · rintro ⟨j, hj, hjk, hgone, hangs⟩
      exact ⟨j, hxs hj hgone, hjk, hgone, hangs⟩
  · obtain rfl := List.mem_singleton.1 hk
    refine iff_of_true hl ?_
    by_contra hnone
    refine hf ((h.isFile_iff hs hb).2 ⟨hkf, ?_⟩)
    rintro ⟨j, hj, hgone, hangs⟩
    exact hnone ⟨j, List.mem_append_left _ hj, hx j hj, hgone, hangs⟩

theorem concat (events : List Event) :
    ∃ n d'', outcome (removeFile false (pathTo folder m l)) ⟨d', events⟩ = (.ok n, ⟨d'', events⟩) ∧
      Strips d folder m (xs ++ [l]) d'' := by
  obtain ⟨b, hf⟩ := h.loses.exists_test (hs.answers l hbl)
  change d'.isFile (pathTo folder m l) = .ok b at hf
  cases b with
  | false =>
    refine ⟨0, d', ?_, h.keep hs hb hx hbl (by simp [hf])⟩
    simp [removeFile, outcome_bind, outcome_ask, hf]
  | true =>
    obtain ⟨k, e, hk, he, ho⟩ := exists_outcome_removeFile hf events
    obtain rfl := hs.sound.eq_of_locate_pathTo hs.locate hs.directory hbl (h.loses.locate hk he)
    exact ⟨_, _, ho, h.erase hs hb hx hbl hf⟩

end Strips

section Searchable

variable (hs : d.Searchable folder m)

include hs

/-- The places have their turns in order. -/
theorem exists_removeFiles (hx : (xs ++ ys).Pairwise Before) (hb : ∀ k ∈ xs ++ ys, d.Below m k)
    (h : Strips d folder m xs d') (events : List Event) :
    ∃ n d'', outcome (removeFiles false (ys.map (pathTo folder m))) ⟨d', events⟩ = (.ok n, ⟨d'', events⟩) ∧
      Strips d folder m (xs ++ ys) d'' := by
  -- On what is still to do; a place moves over to what is done when it has had its turn.
  induction ys generalizing xs d' with
  | nil => exact ⟨0, d', rfl, by rwa [List.append_nil]⟩
  | cons l ys ih =>
    obtain ⟨hbx, hby⟩ := List.forall_mem_append.1 hb
    have hbefore : ∀ k ∈ xs, Before k l := fun k hk =>
      (List.pairwise_append.1 hx).2.2 k hk l List.mem_cons_self
    obtain ⟨n, d₁, ho, h₁⟩ := h.concat hs hbx hbefore (hby l List.mem_cons_self) events
    rw [List.append_cons] at hx hb ⊢
    obtain ⟨n', d₂, ho', h₂⟩ := ih hx hb h₁
    refine ⟨n + n', d₂, ?_, h₂⟩
    rw [List.map_cons, removeFiles, outcome_bind, ho]
    dsimp only
    rw [outcome_bind, ho']
    rfl

theorem exists_strips (events : List Event) :
    ∃ n d', outcome (removeFiles false ((sorted (d.placesBelow m)).map (pathTo folder m))) ⟨d, events⟩ =
      (.ok n, ⟨d', events⟩) ∧ Strips d folder m (sorted (d.placesBelow m)) d' := by
  have hturns : ([] ++ sorted (d.placesBelow m)).Pairwise Before := by
    rw [List.nil_append]
    exact (sorted_pairwise _).and (hs.sound.nodup_sorted_placesBelow m)
  exact exists_removeFiles hs hturns (fun _ => mem_sorted_placesBelow.1) (.nil hs.sound) events

/-- No file is left of those that had their turn, as the way to a file hangs on no other file and on no link to
one. -/
theorem Strips.file?_eq_none (h : Strips d folder m xs d') (hb : ∀ k ∈ xs, d.Below m k) (hl : l ∈ xs) :
    d'.file? l = none := by
  cases hf : d'.file? l with
  | none => rfl
  | some content =>
    have he' := file?_eq_some_iff.1 hf
    have he := h.loses.get?_eq he'
    have hfile := hs.isFile_of_file (hb l hl) he
    obtain ⟨k, hk, hkl, hgone, hangs⟩ := (h.remains l hl hfile).1 (by rw [he']; rfl)
    have hne : d'.get? k ≠ d.get? k := fun hsame =>
      Option.not_isSome_iff_eq_none.2 (hsame.symm.trans hgone) (hb k hk).present
    have hlike := (((h.loses_fileLike hs hb).get? k).resolve_left hne).2
    have hs' : (d.erase k).Searchable folder m :=
      hs.of_loses ((Loses.refl hs.sound).erase hlike (hs.sound.get?_child hlike.not_directory))
    have hel : (d.erase k).get? l = some (.file content) := by rw [get?_erase_of_ne (Ne.symm hkl.2), he]
    exact absurd (hs'.isFile_of_file ⟨(hb l hl).isPrefix, (hb l hl).ne, by rw [hel]; rfl⟩ hel) hangs

end Searchable

end Cleaning
end EntityGen
