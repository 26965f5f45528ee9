import EntityGen.Disk.RealPath
import EntityGen.Proofs.Disk.Growth
import EntityGen.Proofs.Disk.LinkFree

/-! Where there are no links, writing touches only the places that a path leads through. -/

namespace EntityGen

namespace Disk

/-- A place is on the way of a path, its end included: the path or one above it stands for the place. -/
def LeadsThrough (d : Disk) (p : Path) (l : Place) : Prop := l ∈ stops (d.start p) p.names

/-- There are still no links, and nothing has changed at a place. -/
structure Spares (d : Disk) (l : Place) (d' : Disk) : Prop where
  linkFree : d'.LinkFree
  home : d'.home = d.home
  same : d'.get? l = d.get? l

variable {d d' : Disk} {followLast : Bool} {n : Nat} {here l m : Place} {names : List String} {p : Path}
  {e : Entry}

theorem foldl_mem_stops (here : Place) (names : List String) : names.foldl step here ∈ stops here names := by
  induction names generalizing here with
  | nil => exact List.mem_cons_self
  | cons name rest ih => exact List.mem_cons_of_mem _ (ih _)

theorem placeOf_eq (d : Disk) (p : Path) : d.placeOf p = p.names.foldl step (d.start p) := rfl

theorem leadsThrough_placeOf (d : Disk) (p : Path) : d.LeadsThrough p (d.placeOf p) := foldl_mem_stops _ _

theorem leadsThrough_of_prefix {names : List String} (h : names <+: p.names)
    (hl : d.LeadsThrough ⟨p.slashes, names⟩ l) : d.LeadsThrough p l := by
  obtain ⟨rest, hr⟩ := h
  rw [LeadsThrough, ← hr]
  exact stops_append hl

theorem leadsThrough_of_parent (hl : d.LeadsThrough p.parent l) : d.LeadsThrough p l :=
  leadsThrough_of_prefix (List.dropLast_prefix p.names) hl

theorem LinkFree.leads_eq (hl : d.LinkFree) (h : Leads d followLast n here names l) :
    l = names.foldl step here := by
  induction h with
  | here => rfl
  | back _ _ ih => exact ih
  | enter _ hn _ _ _ _ ih => rw [List.foldl_cons, step_enter _ hn, ih]
  | missing _ hn => rw [List.foldl_cons, step_enter _ hn, List.foldl_nil]
  | stop _ _ _ ht => exact absurd ht (hl _ _)
  | follow _ _ _ ht => exact absurd ht (hl _ _)

theorem LinkFree.locate_eq_placeOf (hl : d.LinkFree) (h : d.locate followLast p = .ok l) : l = d.placeOf p :=
  hl.leads_eq (locate_eq_ok_iff.1 h).2.2

theorem start_congr (h : d'.home = d.home) (p : Path) : d'.start p = d.start p := by
  rw [start, start, h]

theorem placeOf_congr (h : d'.home = d.home) (p : Path) : d'.placeOf p = d.placeOf p := by
  rw [placeOf, placeOf, start_congr h]

theorem leadsThrough_congr (h : d'.home = d.home) : d'.LeadsThrough p l ↔ d.LeadsThrough p l := by
  rw [LeadsThrough, LeadsThrough, start_congr h]

theorem Grows.linkFree (h : d.Grows d') (hl : d.LinkFree) : d'.LinkFree :=
  fun l t ht => hl l t ((h.link l t).1 ht)

/-- Where something stands that is no link it stays, and only a directory can come where nothing is. -/
theorem Adds.get?_eq_or (h : d.Adds d') (hl : d.LinkFree) (l : Place) :
    d'.get? l = d.get? l ∨ d.get? l = none ∧ d'.get? l = some .directory := by
  have hsame := h.same l
  cases he : d.get? l with
  | some e =>
    cases e with
    | directory => exact .inl (h.directory l he)
    | link t => exact absurd he (hl l t)
    | file content =>
      rw [file?_eq_some_iff.2 he, file?_eq_some_iff] at hsame
      exact .inl hsame
  | none =>
    cases he' : d'.get? l with
    | none => exact .inl rfl
    | some e =>
      cases e with
      | directory => exact .inr ⟨rfl, rfl⟩
      | link t => exact absurd he' (h.linkFree hl l t)
      | file content =>
        rw [file?_eq_some_iff.2 he', file?, he] at hsame
        cases hsame

namespace Spares

theorem refl (hl : d.LinkFree) : d.Spares l d := ⟨hl, rfl, rfl⟩

theorem put (h : d.Spares l d') (hm : l ≠ m) (he : ∀ t, e ≠ .link t) : d.Spares l (d'.put m e) := by
  refine ⟨fun k t hk => ?_, h.home, ?_⟩
  · by_cases hkm : k = m
    · subst hkm
      by_cases hroot : k = []
      · rw [hroot] at hk
        cases hk
      · rw [get?_put_self e hroot] at hk
        exact he t (Option.some.inj hk)
    · rw [get?_put_of_ne e hkm] at hk
      exact h.linkFree k t hk
  · rw [get?_put_of_ne e hm]
    exact h.same

theorem ne_of_locate (h : d.Spares l d') (hp : ¬ d.LeadsThrough p l) (hm : d'.locate followLast p = .ok m) :
    l ≠ m := by
  rintro rfl
  rw [h.linkFree.locate_eq_placeOf hm, placeOf_congr h.home] at hp
  exact hp (leadsThrough_placeOf d p)

end Spares
end Disk

namespace Action

open Disk

variable {d d' : Disk} {l : Place} {p : Path}

theorem makeDirectory_spares (hp : ¬ d.LeadsThrough p l) : Preserves (d.Spares l ·) (makeDirectory p) := by
  intro d' h
  rw [outcome_makeDirectory]
  split
  · exact h
  · next m hm =>
    split
    · exact h
    · exact h.put (h.ne_of_locate hp hm) nofun

theorem allowDirectory_spares (p : Path) (t : Trouble) : Preserves (d.Spares l ·) (allowDirectory p t) := by
  intro d' h
  rwa [outcome_allowDirectory]

theorem ensureDirectory_spares (hp : ¬ d.LeadsThrough p l) : Preserves (d.Spares l ·) (ensureDirectory p) := by
  refine (makeDirectory_spares hp).tryCatch fun t => ?_
  split
  · exact fun _ h => h
  · exact allowDirectory_spares p _

theorem ensureNames_spares {slashes : Nat} {names : List String}
    (hp : ¬ d.LeadsThrough ⟨slashes, names.reverse⟩ l) : Preserves (d.Spares l ·) (ensureNames slashes names) := by
  induction names with
  | nil => exact ensureDirectory_spares hp
  | cons name above ih =>
    refine (makeDirectory_spares hp).tryCatch fun t => ?_
    split
    · -- What is above the path is on its way.
      refine .bind (ih fun ha => hp ?_) fun _ => ensureDirectory_spares hp
      refine leadsThrough_of_prefix ?_ ha
      rw [List.reverse_cons]
      exact List.prefix_append _ _
    · exact allowDirectory_spares _ _

theorem ensureDirectories_spares (hp : ¬ d.LeadsThrough p l) :
    Preserves (d.Spares l ·) (ensureDirectories p) := by
  apply ensureNames_spares
  rwa [List.reverse_reverse]

theorem writeFile_spares {content : ByteArray} (hp : ¬ d.LeadsThrough p l) :
    Preserves (d.Spares l ·) (writeFile p content) := by
  intro d' h
  rw [outcome_writeFile]
  split
  · exact h
  · next m hm =>
    split
    · exact h
    · exact h.put (h.ne_of_locate hp hm) nofun

/-! A directory that was to be made is there afterwards. -/

theorem isDirectory_of_makeDirectory (hs : d.Sound) (hl : d.LinkFree)
    (h : outcome (makeDirectory p) d = (.ok (), d')) : d'.isDirectory p = .ok true := by
  have hg : d.Adds d' := by
    have ha := makeDirectory_adds (d := d) p d (.refl hs)
    rwa [h] at ha
  rw [outcome_makeDirectory] at h
  split at h
  · cases h
  · next l hm =>
    split at h
    · cases h
    · next hf =>
      cases h
      have hm := hg.locate hm
      rw [(hg.linkFree hl).locate_eq false true] at hm
      refine isDirectory_iff.2 ⟨l, hm, get?_put_self _ ?_⟩
      rintro rfl
      cases hf

theorem isDirectory_of_allowDirectory {t : Trouble} (h : outcome (allowDirectory p t) d = (.ok (), d')) :
    d'.isDirectory p = .ok true := by
  have hd := outcome_allowDirectory p t d
  rw [h] at hd
  dsimp only at hd
  subst hd
  cases t with
  | nul => cases h
  | refusal r =>
    simp only [allowDirectory, outcome_bind, outcome_get] at h
    rcases hd : d'.isDirectory p with _ | (_ | _)
    · rw [hd] at h
      cases h
    · rw [hd] at h
      cases h
    · rfl

theorem isDirectory_of_tryCatch {handler : Trouble → Action Unit} (hs : d.Sound) (hl : d.LinkFree)
    (hh : ∀ t d₁, d.Adds d₁ → outcome (handler t) d₁ = (.ok (), d') → d'.isDirectory p = .ok true)
    (h : outcome (tryCatch (makeDirectory p) handler) d = (.ok (), d')) : d'.isDirectory p = .ok true := by
  have ha := makeDirectory_adds (d := d) p d (.refl hs)
  rw [outcome_tryCatch] at h
  rcases hm : outcome (makeDirectory p) d with ⟨t | _, d₁⟩
  · rw [hm] at h ha
    exact hh t d₁ ha h
  · rw [hm] at h
    cases h
    exact isDirectory_of_makeDirectory hs hl hm

theorem isDirectory_of_ensureDirectory (hs : d.Sound) (hl : d.LinkFree)
    (h : outcome (ensureDirectory p) d = (.ok (), d')) : d'.isDirectory p = .ok true := by
  refine isDirectory_of_tryCatch hs hl (fun t d₁ _ ht => ?_) h
  split at ht
  · cases ht
  · exact isDirectory_of_allowDirectory ht

theorem isDirectory_of_ensureNames {slashes : Nat} {names : List String} (hs : d.Sound) (hl : d.LinkFree)
    (h : outcome (ensureNames slashes names) d = (.ok (), d')) :
    d'.isDirectory ⟨slashes, names.reverse⟩ = .ok true := by
  cases names with
  | nil => exact isDirectory_of_ensureDirectory hs hl h
  | cons name above =>
    refine isDirectory_of_tryCatch hs hl (fun t d₁ ha ht => ?_) h
    split at ht
    · obtain ⟨_, d₂, h₂, ht⟩ := outcome_bind_eq_ok_iff.1 ht
      have ha₂ := ensureNames_adds slashes above d₁ ha
      rw [h₂] at ha₂
      exact isDirectory_of_ensureDirectory ha₂.sound (ha₂.linkFree hl) ht
    · exact isDirectory_of_allowDirectory ht

theorem isDirectory_of_ensureDirectories (hs : d.Sound) (hl : d.LinkFree)
    (h : outcome (ensureDirectories p) d = (.ok (), d')) : d'.isDirectory p = .ok true := by
  have hd := isDirectory_of_ensureNames hs hl h
  rwa [List.reverse_reverse] at hd

end Action
end EntityGen
