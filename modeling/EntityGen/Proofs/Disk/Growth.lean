import EntityGen.Proofs.Disk.Action
import EntityGen.Proofs.Disk.Locate

/-! What making directories and writing files does to a disk. -/

namespace EntityGen

namespace Disk

/-- Nothing was taken away and no link was made; a file may have another content. -/
structure Grows (d d' : Disk) : Prop where
  sound : d'.Sound
  home : d'.home = d.home
  directory : ∀ l, d.get? l = some .directory → d'.get? l = some .directory
  link : ∀ l t, d'.get? l = some (.link t) ↔ d.get? l = some (.link t)
  file : ∀ l, (d.file? l).isSome → (d'.file? l).isSome

/-- Only directories came to be. -/
structure Adds (d d' : Disk) : Prop extends Grows d d' where
  same : ∀ l, d'.file? l = d.file? l

namespace Grows

variable {d d' d'' : Disk} {l : Place}

theorem refl (h : d.Sound) : d.Grows d := ⟨h, rfl, fun _ h => h, fun _ _ => .rfl, fun _ h => h⟩

theorem trans (h : d.Grows d') (h' : d'.Grows d'') : d.Grows d'' where
  sound := h'.sound
  home := h'.home.trans h.home
  directory l hl := h'.directory l (h.directory l hl)
  link l t := (h'.link l t).trans (h.link l t)
  file l hl := h'.file l (h.file l hl)

theorem keeps (h : d.Grows d') : d.Keeps d' := ⟨h.home, h.directory, fun l t => (h.link l t).2⟩

theorem get?_isSome (h : d.Grows d') (hl : (d.get? l).isSome) : (d'.get? l).isSome := by
  obtain ⟨e, he⟩ := Option.isSome_iff_exists.1 hl
  cases e with
  | directory => simp [h.directory l he]
  | link t => simp [(h.link l t).2 he]
  | file content =>
    obtain ⟨content', hc⟩ := Option.isSome_iff_exists.1 (h.file l (by simp [file?_eq_some_iff.2 he]))
    simp [file?_eq_some_iff.1 hc]

theorem locate (h : d.Grows d') {followLast : Bool} {p : Path} (hp : d.locate followLast p = .ok l) :
    d'.locate followLast p = .ok l := by
  rw [locate_eq_ok_iff] at hp ⊢
  obtain ⟨hn, ht, hl⟩ := hp
  have hs : d'.start p = d.start p := by simp [start, h.home]
  exact ⟨hn, ht, hs ▸ hl.mono h.keeps h.get?_isSome fun t => (h.link l t).1⟩

theorem isDirectory (h : d.Grows d') {p : Path} (hp : d.isDirectory p = .ok true) : d'.isDirectory p = .ok true := by
  obtain ⟨l, hl, hdir⟩ := isDirectory_iff.1 hp
  exact isDirectory_iff.2 ⟨l, h.locate hl, h.directory l hdir⟩

theorem put_new {name : String} {e : Entry} (h : d.Sound) (hd : d.get? l = some .directory)
    (hn : IsEntryName name) (hf : d.get? (l ++ [name]) = none) (hl : ∀ t, e ≠ .link t) :
    d.Grows (d.put (l ++ [name]) e) where
  sound := h.put_new hd hn hf hl
  home := rfl
  directory m hm := by rw [get?_put_of_ne e (fun hml => by rw [hml, hf] at hm; cases hm), hm]
  link m t := by
    by_cases hm : m = l ++ [name]
    · rw [hm, get?_put_self e (by simp), hf]
      exact ⟨fun he => absurd (Option.some.inj he) (hl t), nofun⟩
    · rw [get?_put_of_ne e hm]
  file m hm := by
    by_cases hml : m = l ++ [name]
    · rw [hml, file?, hf] at hm; cases hm
    · rwa [file?, get?_put_of_ne e hml]

theorem put_file {c c' : ByteArray} (h : d.Sound) (hf : d.get? l = some (.file c)) :
    d.Grows (d.put l (.file c')) := by
  have hne : l ≠ [] := by rintro rfl; cases hf
  refine ⟨h.put_file hf, rfl, fun m hm => ?_, fun m t => ?_, fun m hm => ?_⟩
  · rw [get?_put_of_ne _ (fun hml => by rw [hml, hf] at hm; cases hm), hm]
  · by_cases hm : m = l
    · rw [hm, get?_put_self _ hne, hf]; exact ⟨nofun, nofun⟩
    · rw [get?_put_of_ne _ hm]
  · by_cases hml : m = l
    · rw [hml, file?, get?_put_self _ hne]; rfl
    · rwa [file?, get?_put_of_ne _ hml]

end Grows

namespace Adds

variable {d d' d'' : Disk}

theorem refl (h : d.Sound) : d.Adds d := { Grows.refl h with same := fun _ => rfl }

theorem trans (h : d.Adds d') (h' : d'.Adds d'') : d.Adds d'' :=
  { h.toGrows.trans h'.toGrows with same := fun l => (h'.same l).trans (h.same l) }

end Adds
end Disk

namespace Action

open Disk

variable {d : Disk} {p : Path}

/-- The end of a way on a sound disk is no link, and there is a directory for it if nothing is there. -/
theorem locate_free {followLast : Bool} {l : Place} (h : d.Sound) (hl : d.locate followLast p = .ok l)
    (hf : d.get? l = none) : ∃ m name, l = m ++ [name] ∧ d.get? m = some .directory ∧ IsEntryName name := by
  obtain ⟨hn, _, hl⟩ := locate_eq_ok_iff.1 hl
  refine h.leads_new hl (fun name hm => ?_) hf
  simp only [Path.hasNul, List.any_eq_false] at hn
  simpa using hn name hm

theorem locate_not_link {l : Place} (h : d.Sound) (hl : d.locate true p = .ok l) (t : Path) :
    d.get? l ≠ some (.link t) := by
  refine h.leads_not_link (locate_eq_ok_iff.1 hl).2.2 (fun u => ?_) t
  unfold start
  split
  · simp
  · exact h.home u

theorem makeDirectory_adds (p : Path) : Preserves (d.Adds ·) (makeDirectory p) := by
  intro d' h
  rw [outcome_makeDirectory]
  split
  · exact h
  · next l hl =>
    split
    · exact h
    · next hf =>
      obtain ⟨m, name, rfl, hd, hn⟩ := locate_free h.sound hl hf
      have hg : d'.Grows (d'.put (m ++ [name]) .directory) := .put_new h.sound hd hn hf nofun
      refine h.trans { hg with same := fun l => ?_ }
      by_cases hm : l = m ++ [name]
      · rw [file?, file?, hm, get?_put_self _ (by simp), hf]
      · rw [file?, file?, get?_put_of_ne _ hm]

theorem allowDirectory_adds (p : Path) (t : Trouble) : Preserves (d.Adds ·) (allowDirectory p t) := by
  intro d' h
  rwa [outcome_allowDirectory]

theorem ensureDirectory_adds (p : Path) : Preserves (d.Adds ·) (ensureDirectory p) := by
  refine (makeDirectory_adds p).tryCatch fun t => ?_
  split
  · exact fun _ h => h
  · exact allowDirectory_adds p _

theorem ensureNames_adds (slashes : Nat) (names : List String) :
    Preserves (d.Adds ·) (ensureNames slashes names) := by
  induction names with
  | nil => exact ensureDirectory_adds _
  | cons name above ih =>
    refine (makeDirectory_adds _).tryCatch fun t => ?_
    split
    · exact ih.bind fun _ => ensureDirectory_adds _
    · exact allowDirectory_adds _ _

theorem ensureDirectories_adds (p : Path) : Preserves (d.Adds ·) (ensureDirectories p) := ensureNames_adds _ _

theorem adds_of_ensureDirectories {d' : Disk} {t : Except Trouble Unit} (hd : d.Sound)
    (h : outcome (ensureDirectories p) d = (t, d')) : d.Adds d' := by
  have ha := ensureDirectories_adds p d (.refl hd)
  rwa [h] at ha

/-- A file that is written is where its path leads to. -/
theorem writeFile_grows {content : ByteArray} {d' : Disk} (h : d.Sound)
    (hw : outcome (writeFile p content) d = (.ok (), d')) :
    ∃ l, d.locate true p = .ok l ∧ d.Grows d' ∧ d'.file? l = some content ∧
      ∀ m, m ≠ l → d'.file? m = d.file? m := by
  rw [outcome_writeFile] at hw
  split at hw
  · cases hw
  · next l hl =>
    split at hw
    · cases hw
    · next hd =>
      cases hw
      have hne : l ≠ [] := by rintro rfl; exact hd rfl
      refine ⟨l, hl, ?_, ?_, fun m hm => by rw [file?, file?, get?_put_of_ne _ hm]⟩
      · cases he : d.get? l with
        | none =>
          obtain ⟨m, name, rfl, hm, hn⟩ := locate_free h hl he
          exact .put_new h hm hn he nofun
        | some e =>
          cases e with
          | directory => exact absurd he hd
          | link t => exact absurd he (locate_not_link h hl t)
          | file c => exact .put_file h he
      · rw [file?_eq_some_iff, get?_put_self _ hne]

end Action
end EntityGen
