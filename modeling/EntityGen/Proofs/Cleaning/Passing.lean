import EntityGen.Proofs.Cleaning.Stripping

/-! When cleaning comes to its end where there may be links, and what it leaves. -/

namespace EntityGen

namespace Disk

/-- Nothing but directories is at a place or below it. -/
def bare (d : Disk) (l : Place) : Bool :=
  d.entries.all fun e => !l.isPrefixOf e.1 || decide (d.get? e.1 = some .directory)

/-- The disk without those of some places that are bare. -/
def withoutBare (d : Disk) (ls : List Place) : Disk := d.without fun l => ls.contains l && d.bare l

/-- A path is taken for one of a directory. -/
def leadsToDirectory (d : Disk) (p : Path) : Bool := (d.isDirectory p).toOption.getD false

/-- What is taken for directories below a folder at a place, links to directories included, the deepest first. -/
def turns (d : Disk) (folder : Path) (m : Place) : List Place :=
  ((sorted (d.placesBelow m)).filter fun l => d.leadsToDirectory (pathTo folder m l)).mergeSort deepestFirst

variable {d : Disk} {folder p : Path} {k l m x : Place} {ys zs : List Place} {e : Entry}
  {followLast : Bool}

theorem leadsToDirectory_iff : d.leadsToDirectory p = true ↔ d.isDirectory p = .ok true := by
  rw [leadsToDirectory]
  rcases d.isDirectory p with r | b <;> simp [Except.toOption]

theorem bare_iff : d.bare l = true ↔ ∀ k, l <+: k → ∀ e, d.get? k = some e → e = .directory := by
  refine (all_entries_iff (q := fun k => decide (d.get? k = some .directory)) rfl).trans (forall₂_congr fun k _ => ?_)
  cases d.get? k <;> simp

theorem bare_of_prefix (h : d.bare l = true) (hp : l <+: k) : d.bare k = true :=
  bare_iff.2 fun _ hj => bare_iff.1 h _ (hp.trans hj)

/-- A directory that is not bare has something in it that is not. -/
theorem Sound.exists_child_of_not_bare (h : d.Sound) (hd : d.get? l = some .directory) (hb : d.bare l = false) :
    ∃ name, (d.get? (l ++ [name])).isSome ∧ d.bare (l ++ [name]) = false := by
  simp only [← Bool.not_eq_true, bare_iff] at hb ⊢
  refine h.exists_child_of (fun e he => Option.some.inj (he.symm.trans hd)) (fun k hk e he => ?_) hb
  rw [hk] at he
  cases he

theorem withoutBare_nil (d : Disk) : d.withoutBare [] = d := by
  simp [withoutBare]

theorem get?_withoutBare_of_notMem (hl : l ∉ ys) : (d.withoutBare ys).get? l = d.get? l :=
  get?_without_of_not (by simp [hl])

namespace Searchable

/-- What is below a folder and taken for a directory. -/
def IsFound (d : Disk) (folder : Path) (m l : Place) : Prop :=
  d.Below m l ∧ d.leadsToDirectory (pathTo folder m l) = true

variable (hs : d.Searchable folder m)

include hs

theorem isFound_of_directory (hb : d.Below m l) (he : d.get? l = some .directory) : IsFound d folder m l :=
  ⟨hb, leadsToDirectory_iff.2 (isDirectory_iff.2 ⟨l, hs.locate_pathTo hb he nofun true, he⟩)⟩

/-- What is taken for a directory is one or a link. -/
theorem directory_or_link (hl : IsFound d folder m l) :
    d.get? l = some .directory ∨ ∃ t, d.get? l = some (.link t) := by
  obtain ⟨hb, hl⟩ := hl
  obtain ⟨e, he⟩ := Option.isSome_iff_exists.1 hb.present
  cases e with
  | directory => exact .inl he
  | link t => exact .inr ⟨t, he⟩
  | file content =>
    obtain ⟨k, hk, hkd⟩ := isDirectory_iff.1 (leadsToDirectory_iff.1 hl)
    cases hk.symm.trans (hs.locate_pathTo hb he nofun true)
    cases he.symm.trans hkd

theorem loses_withoutBare (t : InTurn (IsFound d folder m) ys zs) :
    d.Loses (fun l => l ∈ ys ∧ d.bare l = true) (d.withoutBare ys) := by
  refine ⟨hs.sound.without fun l name hg hp => ?_, rfl, fun l => ?_⟩
  · simp only [Bool.and_eq_true, List.contains_iff_mem] at hg ⊢
    obtain ⟨hl, hbare⟩ := hg
    obtain ⟨e, he⟩ := Option.isSome_iff_exists.1 hp
    have hbelow : l <+: l ++ [name] := List.prefix_append l [name]
    have hdir : d.get? (l ++ [name]) = some .directory := by rw [he, bare_iff.1 hbare _ hbelow e he]
    have hb := ((t.mem l).1 (List.mem_append_left zs hl)).1.trans ⟨hbelow, by simp, hp⟩
    exact ⟨t.mem_of_longer_mem hl (hs.isFound_of_directory hb hdir) (by simp), bare_of_prefix hbare hbelow⟩
  · by_cases hl : l ∈ ys ∧ d.bare l = true
    · have hne : l ≠ [] := fun hnil =>
        Nat.not_lt_zero _ (hnil ▸ ((t.mem l).1 (List.mem_append_left zs hl.1)).1.length_lt)
      exact .inr ⟨get?_without_of hne (by simp [hl.1, hl.2]), hl⟩
    · exact .inl (get?_without_of_not (by simpa using hl))

omit hs in
theorem below_withoutBare (t : InTurn (IsFound d folder m) ys (x :: zs)) : (d.withoutBare ys).Below m x :=
  ⟨t.head.1.isPrefix, t.head.1.ne, by rw [get?_withoutBare_of_notMem t.head_notMem]; exact t.head.1.present⟩

theorem directory_withoutBare (t : InTurn (IsFound d folder m) ys zs) :
    (d.withoutBare ys).get? m = some .directory := by
  rw [get?_withoutBare_of_notMem, hs.directory]
  exact fun hmem => ((t.mem m).1 (List.mem_append_left _ hmem)).1.ne rfl

/-- When a directory has its turn, nothing is left in it if it is bare. -/
theorem hasChildren_withoutBare (t : InTurn (IsFound d folder m) ys (x :: zs)) (hx : d.get? x = some .directory) :
    (d.withoutBare ys).hasChildren x = !d.bare x := by
  refine hasChildren_without (hs.sound.exists_child_of_not_bare hx) fun hbare name hp => ?_
  obtain ⟨e, he⟩ := Option.isSome_iff_exists.1 hp
  have hbelow : x <+: x ++ [name] := List.prefix_append x [name]
  have hdir : d.get? (x ++ [name]) = some .directory := by rw [he, bare_iff.1 hbare _ hbelow e he]
  have hb := t.head.1.trans ⟨hbelow, by simp, hp⟩
  exact ⟨t.mem_of_longer_head (hs.isFound_of_directory hb hdir) (by simp), bare_of_prefix hbare hbelow⟩

/-- Below a folder a way is found as long as the folder is. -/
theorem locate_folder (t : InTurn (IsFound d folder m) ys zs) (hb : d.Below m l)
    (hk : (d.withoutBare ys).locate followLast (pathTo folder m l) = .ok k) :
    (d.withoutBare ys).locate true folder = .ok m := by
  have hj := hs.loses_withoutBare t
  obtain ⟨m', hm', hmd'⟩ := (locate_eq_ok_iff.1 hk).2.2.exists_directory hb.drop_ne_nil
  have hfolder := locate_eq_ok_iff.1 hs.locate
  have hm' : (d.withoutBare ys).locate true folder = .ok m' :=
    locate_eq_ok_iff.2 ⟨hfolder.1, hfolder.2.1, hm'⟩
  cases hs.locate.symm.trans (hj.locate hm' hmd')
  exact hm'

end Searchable

end Disk

namespace Cleaning

open Disk Run

/-- The turn of a place passes: a directory is found as long as the folder is, and a link leads to a directory
with something in it. -/
inductive Passes (folder : Path) (m : Place) (d : Disk) (x : Place) : Prop
  | directory (hx : d.get? x = some .directory) (hm : d.locate true folder = .ok m) : Passes folder m d x
  | link {k : Place} {t : Path} (hx : d.get? x = some (.link t)) (hk : d.locate true (pathTo folder m x) = .ok k)
      (hkd : d.get? k = some .directory) (hc : d.hasChildren k = true) : Passes folder m d x

variable {d : Disk} {folder : Path} {m x : Place} {ys zs : List Place} {events : List Event}

theorem withoutBare_concat (d : Disk) (ys : List Place) (x : Place) :
    d.withoutBare (ys ++ [x]) = if d.bare x then (d.withoutBare ys).erase x else d.withoutBare ys :=
  without_concat d d.bare ys x

section Searchable

variable (hs : d.Searchable folder m)

include hs

theorem outcome_pruneDirectory_of_passes (t : InTurn (Searchable.IsFound d folder m) ys (x :: zs))
    (h : Passes folder m (d.withoutBare ys) x) (events : List Event) :
    outcome (pruneDirectory (pathTo folder m x)) ⟨d.withoutBare ys, events⟩ =
      (.ok (), ⟨d.withoutBare (ys ++ [x]), events⟩) := by
  have hj := hs.loses_withoutBare t
  rw [withoutBare_concat]
  cases h with
  | link hx hk hkd hc =>
    have hbare : d.bare x = false := Bool.eq_false_iff.2 fun hbare => by
      cases bare_iff.1 hbare x (List.prefix_refl x) _ (hj.get?_eq hx)
    rw [hbare]
    exact outcome_pruneDirectory_of_children hk hkd hc
  | directory hx hm =>
    have hxd := hj.get?_eq hx
    have hloc : ∀ followLast, (d.withoutBare ys).locate followLast (pathTo folder m x) = .ok x := fun followLast => by
      rw [hj.sound.locate_pathTo hm (hs.directory_withoutBare t) (Searchable.below_withoutBare t) hx followLast (by simp),
        if_pos (hs.fits t.head.1 hxd (by simp))]
    have hc := hs.hasChildren_withoutBare t hxd
    cases hbare : d.bare x with
    | true =>
      rw [hbare] at hc
      exact outcome_pruneDirectory_of_empty hloc hx hc
    | false =>
      rw [hbare] at hc
      exact outcome_pruneDirectory_of_children (hloc true) hx hc

/-- What is found no longer is no directory to look into, and a link to an empty one is none to remove. -/
theorem exists_refusal (t : InTurn (Searchable.IsFound d folder m) ys (x :: zs))
    (h : ¬Passes folder m (d.withoutBare ys) x) (events : List Event) :
    ∃ r, outcome (pruneDirectory (pathTo folder m x)) ⟨d.withoutBare ys, events⟩ =
      (.error (.filesystem (.removeDirectory r) (pathTo folder m x).text), ⟨d.withoutBare ys, events⟩) := by
  have hj := hs.loses_withoutBare t
  obtain ⟨k₀, hk₀, hkd₀⟩ := isDirectory_iff.1 (leadsToDirectory_iff.1 t.head.2)
  have hsame : (d.withoutBare ys).get? x = d.get? x := get?_withoutBare_of_notMem t.head_notMem
  suffices hrefuses : ∃ r, outcome (do if ← Action.isEmptyDirectory (pathTo folder m x) then
      Action.removeDirectory (pathTo folder m x)) (d.withoutBare ys) = (.error (.refusal r), d.withoutBare ys) by
    obtain ⟨r, hr⟩ := hrefuses
    exact ⟨r, by rw [pruneDirectory, outcome_act, hr]; rfl⟩
  rw [outcome_bind, Action.outcome_isEmptyDirectory, entry]
  cases hk : (d.withoutBare ys).locate true (pathTo folder m x) with
  | error t =>
    cases t with
    | refusal r => exact ⟨r, rfl⟩
    | nul => exact absurd hk (locate_ne_nul (locate_eq_ok_iff.1 hk₀).1)
  | ok k =>
    simp only [bind, Except.bind]
    cases he : (d.withoutBare ys).get? k with
    | none => exact ⟨.missing, rfl⟩
    | some e =>
      cases hk₀.symm.trans (hj.locate hk he)
      cases hkd₀.symm.trans (hj.get?_eq he)
      have hm := hs.locate_folder t t.head.1 hk
      rcases hs.directory_or_link t.head with hx | ⟨target, hx⟩
      · exact absurd (.directory (hsame.trans hx) hm) h
      · have hc : (d.withoutBare ys).hasChildren k₀ = false := Bool.eq_false_iff.2 fun hc =>
          h (.link (hsame.trans hx) hk he hc)
        have hloc := hj.sound.locate_pathTo hm (hs.directory_withoutBare t) (Searchable.below_withoutBare t)
          (hsame.trans hx) false (by simp)
        simp only [Except.map, hc, Bool.not_false, if_true, Action.outcome_removeDirectory, hloc]
        by_cases hfits : Fits folder (x.drop m.length)
        · rw [if_pos hfits]
          exact ⟨.notDirectory, by simp only [hsame, hx]⟩
        · rw [if_neg hfits]
          exact ⟨.nameTooLong, rfl⟩

theorem outcome_forM_pruneDirectory_or (t : InTurn (Searchable.IsFound d folder m) ys zs) (events : List Event) :
    (∀ xs x ws, zs = xs ++ x :: ws → Passes folder m (d.withoutBare (ys ++ xs)) x) ∧
      outcome ((zs.map (pathTo folder m)).forM pruneDirectory) ⟨d.withoutBare ys, events⟩ =
        (.ok (), ⟨d.withoutBare (ys ++ zs), events⟩) ∨
    ∃ xs x ws r, zs = xs ++ x :: ws ∧ ¬Passes folder m (d.withoutBare (ys ++ xs)) x ∧
      outcome ((zs.map (pathTo folder m)).forM pruneDirectory) ⟨d.withoutBare ys, events⟩ =
        (.error (.filesystem (.removeDirectory r) (pathTo folder m x).text), ⟨d.withoutBare (ys ++ xs), events⟩) := by
  -- On what is still to do; a place moves over to what is done when its turn has passed.
  induction zs generalizing ys with
  | nil => exact .inl ⟨fun xs x ws h => by simp at h, by rw [List.append_nil]; rfl⟩
  | cons z zs ih =>
    rw [List.map_cons, outcome_forM_cons]
    by_cases hz : Passes folder m (d.withoutBare ys) z
    · rw [outcome_pruneDirectory_of_passes hs t hz]
      dsimp only
      rcases ih t.next with ⟨hall, ho⟩ | ⟨xs, x, ws, r, rfl, hx, ho⟩
      · refine .inl ⟨fun xs x ws h => ?_, by rw [ho, ← List.append_cons]⟩
        cases xs with
        | nil =>
          obtain ⟨rfl, -⟩ := List.cons.inj h
          rwa [List.append_nil]
        | cons y xs =>
          obtain ⟨rfl, hzs⟩ := List.cons.inj h
          rw [List.append_cons]
          exact hall xs x ws hzs
      · rw [← List.append_cons] at hx ho
        exact .inr ⟨z :: xs, x, ws, r, rfl, hx, ho⟩
    · obtain ⟨r, ho⟩ := exists_refusal hs t hz events
      rw [ho]
      exact .inr ⟨[], z, zs, r, rfl, by rwa [List.append_nil], by rw [List.append_nil]⟩

theorem outcome_prune_of_searchable (events : List Event) : outcome (prune folder) ⟨d, events⟩ =
    outcome (((d.turns folder m).map (pathTo folder m)).forM pruneDirectory) ⟨d, events⟩ := by
  have hfound : ∀ l, d.Below m l →
      d.isDirectory (pathTo folder m l) = .ok (d.leadsToDirectory (pathTo folder m l)) := by
    intro l hb
    obtain ⟨b, h⟩ : ∃ b, d.isDirectory (pathTo folder m l) = .ok b := exists_test_congr (hs.answers l hb)
    rw [leadsToDirectory, h]
    rfl
  rw [prune, outcome_bind, outcome_ask, isDirectory_iff.2 ⟨m, hs.locate, hs.directory⟩]
  simp only [mapError_ok, if_true]
  rw [outcome_bind, outcome_ask, directoriesBelow_eq_map hs.locate hs.directory hfound]
  rfl

end Searchable

/-- A link to a file behind that file, and a link to a directory with nothing in it. -/
def strandedDisk : Disk where
  home := ["w"]
  entries := [(["w"], .directory), (["w", "m"], .directory), (["w", "m", "a"], .file "a".toUTF8),
    (["w", "m", "k"], .link ⟨0, ["..", "x"]⟩), (["w", "m", "z"], .link ⟨0, ["a"]⟩), (["w", "x"], .directory)]

theorem strandedDisk_sound : strandedDisk.Sound := by
  apply sound_of_entries
  · decide
  · decide
  · simp [strandedDisk, IsEntryName]
  · simp [strandedDisk, Path.hasNul]
  · rfl

/-- The way to the folder of the models, and on from there. -/
theorem strandedDisk_leads {names : List String} {l : Place} (h : Leads strandedDisk true linkLimit ["w", "m"] names l) :
    Leads strandedDisk true linkLimit ["w"] ("m" :: names) l :=
  .enter rfl (by decide) (by decide +kernel) rfl (by simp) h

/-- The three things there are a file, a link to a directory and a link to the file. -/
theorem strandedDisk_leads_below {name : String} (h : name ∈ ["a", "k", "z"]) :
    ∃ l, Leads strandedDisk true linkLimit ["w", "m"] [name] l := by
  have hfile : ∀ n, Leads strandedDisk true n ["w", "m"] ["a"] ["w", "m", "a"] := fun n =>
    .enter rfl (by decide) (by decide +kernel) rfl (by simp) (.here rfl)
  have hdirectory : ∀ n, Leads strandedDisk true n ["w"] ["x"] ["w", "x"] := fun n =>
    .enter rfl (by decide) (by decide +kernel) rfl (by simp) (.here rfl)
  simp only [List.mem_cons, List.not_mem_nil, or_false] at h
  rcases h with rfl | rfl | rfl
  · exact ⟨_, hfile linkLimit⟩
  · exact ⟨_, .follow rfl (by decide) (by decide +kernel) rfl (fun _ => rfl) (.back rfl (hdirectory _))⟩
  · exact ⟨_, .follow rfl (by decide) (by decide +kernel) rfl (fun _ => rfl) (hfile _)⟩

theorem strandedDisk_searchable : strandedDisk.Searchable ⟨0, ["m"]⟩ ["w", "m"] where
  sound := strandedDisk_sound
  locate := locate_eq_ok_iff.2 ⟨by simp [Path.hasNul], by decide +kernel, strandedDisk_leads (.here rfl)⟩
  directory := rfl
  answers l hb := by
    have hplaces : strandedDisk.placesBelow ["w", "m"] = ["a", "k", "z"].map (["w", "m"] ++ [·]) := by decide
    rw [← mem_placesBelow_iff_below, hplaces] at hb
    obtain ⟨name, hname, rfl⟩ := List.mem_map.1 hb
    obtain ⟨k, hk⟩ := strandedDisk_leads_below hname
    have hpath : pathTo ⟨0, ["m"]⟩ ["w", "m"] (["w", "m"] ++ [name]) = ⟨0, ["m", name]⟩ := by
      simp [pathTo, Path.below]
    rw [hpath]
    have hlocate : strandedDisk.locate true ⟨0, ["m", name]⟩ = .ok k := by
      simp only [List.mem_cons, List.not_mem_nil, or_false] at hname
      refine locate_eq_ok_iff.2 ⟨?_, ?_, strandedDisk_leads hk⟩
      · rcases hname with rfl | rfl | rfl <;> simp [Path.hasNul]
      · rcases hname with rfl | rfl | rfl <;> decide +kernel
    cases hf : strandedDisk.isFile ⟨0, ["m", name]⟩ with
    | ok b => exact ⟨b, rfl⟩
    | error r => cases hlocate.symm.trans (test_eq_error_iff.1 hf).2

end Cleaning

end EntityGen
