import EntityGen.Proofs.Cleaning.Files

/-! Removing the empty directories below a folder where there are no links. -/

namespace EntityGen

namespace Disk

/-- No file is at a place or below it. -/
def hollow (d : Disk) (l : Place) : Bool :=
  d.entries.all fun e => !(l.isPrefixOf e.1 && (d.file? e.1).isSome)

def deepestFirst (k l : Place) : Bool := decide (l.length ≤ k.length)

/-- The directories below a place, the deepest first. -/
def directoriesIn (d : Disk) (m : Place) : List Place :=
  ((sorted (d.placesBelow m)).filter fun l => decide (d.get? l = some .directory)).mergeSort deepestFirst

/-- The disk without those of some places that are hollow. -/
def withoutHollow (d : Disk) (ls : List Place) : Disk :=
  d.without fun l => ls.contains l && d.hollow l

variable {d : Disk} {folder : Path} {k l m x : Place} {ys zs : List Place}

/-- Of what stands at a place or below it only the root is not listed. -/
theorem all_entries_iff {q : Place → Bool} (hroot : q [] = true) :
    (d.entries.all fun e => !l.isPrefixOf e.1 || q e.1) = true ↔
      ∀ k, l <+: k → (d.get? k).isSome → q k = true := by
  simp only [List.all_eq_true, Bool.or_eq_true, Bool.not_eq_true']
  constructor
  · intro h k hk hp
    by_cases hne : k = []
    · rw [hne, hroot]
    · obtain ⟨e, he⟩ := Option.isSome_iff_exists.1 hp
      obtain ⟨f, hf, rfl⟩ := List.mem_map.1 (mem_of_get? hne he)
      refine (h f hf).resolve_left fun hprefix => ?_
      rw [List.isPrefixOf_iff_prefix.2 hk] at hprefix
      cases hprefix
  · intro h f hf
    cases hp : l.isPrefixOf f.1 with
    | false => exact .inl rfl
    | true => exact .inr (h f.1 (List.isPrefixOf_iff_prefix.1 hp) (get?_of_mem (List.mem_map_of_mem hf)))

theorem hollow_iff : d.hollow l = true ↔ ∀ k, l <+: k → d.file? k = none := by
  simp only [hollow, Bool.not_and]
  refine (all_entries_iff (q := fun k => !(d.file? k).isSome) rfl).trans (forall₂_congr fun k _ => ?_)
  cases hk : d.get? k <;> simp [file?, hk]

theorem hollow_of_prefix (h : d.hollow l = true) (hp : l <+: k) : d.hollow k = true :=
  hollow_iff.2 fun _ hj => hollow_iff.1 h _ (hp.trans hj)

theorem Below.trans (hx : d.Below m x) (hk : d.Below x k) : d.Below m k := by
  refine ⟨hx.isPrefix.trans hk.isPrefix, ?_, hk.present⟩
  rintro rfl
  exact absurd hx.isPrefix.length_le (Nat.not_le.2 hk.length_lt)

theorem mem_directoriesIn : l ∈ d.directoriesIn m ↔ d.Below m l ∧ d.get? l = some .directory := by
  rw [directoriesIn, List.mem_mergeSort, List.mem_filter, mem_sorted_placesBelow, decide_eq_true_eq]

theorem deepestFirst_trans (j k l : Place) (hjk : deepestFirst j k) (hkl : deepestFirst k l) :
    deepestFirst j l := by
  simp only [deepestFirst, decide_eq_true_eq] at *
  omega

theorem deepestFirst_total (k l : Place) : deepestFirst k l || deepestFirst l k := by
  simp only [deepestFirst, Bool.or_eq_true, decide_eq_true_eq]
  omega

theorem withoutHollow_nil (d : Disk) : d.withoutHollow [] = d := by
  simp [withoutHollow]

theorem get?_withoutHollow_of_not_mem (hl : l ∉ ys) : (d.withoutHollow ys).get? l = d.get? l :=
  get?_without_of_not (by simp [hl])

/-- When it is the turn of the places `zs`, all longer ones of those that get a turn have had it. -/
structure InTurn (q : Place → Prop) (ys zs : List Place) : Prop where
  mem : ∀ l, l ∈ ys ++ zs ↔ q l
  nodup : (ys ++ zs).Nodup
  pairwise : (ys ++ zs).Pairwise fun k l => l.length ≤ k.length

namespace InTurn

variable {q : Place → Prop}

theorem next (t : InTurn q ys (x :: zs)) : InTurn q (ys ++ [x]) zs := by
  have h := List.append_cons ys x zs
  exact ⟨h ▸ t.mem, h ▸ t.nodup, h ▸ t.pairwise⟩

theorem head (t : InTurn q ys (x :: zs)) : q x := (t.mem x).1 (by simp)

theorem head_notMem (t : InTurn q ys (x :: zs)) : x ∉ ys :=
  fun hx => (List.nodup_append.1 t.nodup).2.2 x hx x List.mem_cons_self rfl

theorem mem_of_longer (t : InTurn q ys zs) (hz : ∀ z ∈ zs, z.length ≤ x.length) (hk : q k)
    (hlt : x.length < k.length) : k ∈ ys :=
  (List.mem_append.1 ((t.mem k).2 hk)).resolve_right fun hkz => Nat.not_le.2 hlt (hz k hkz)

theorem mem_of_longer_head (t : InTurn q ys (x :: zs)) (hk : q k) (hlt : x.length < k.length) : k ∈ ys := by
  have hp := (List.pairwise_append.1 t.pairwise).2.1
  exact t.mem_of_longer (List.forall_mem_cons.2 ⟨Nat.le_refl _, (List.pairwise_cons.1 hp).1⟩) hk hlt

theorem mem_of_longer_mem (t : InTurn q ys zs) (hx : x ∈ ys) (hk : q k) (hlt : x.length < k.length) : k ∈ ys :=
  t.mem_of_longer ((List.pairwise_append.1 t.pairwise).2.2 x hx) hk hlt

end InTurn

/-- Of the places below another one, those that answer a question get turns. -/
theorem Sound.inTurn (h : d.Sound) (m : Place) (q : Place → Bool) :
    InTurn (fun l => d.Below m l ∧ q l = true) [] (((sorted (d.placesBelow m)).filter q).mergeSort deepestFirst) where
  mem l := by
    rw [List.nil_append, List.mem_mergeSort, List.mem_filter, mem_sorted_placesBelow]
  nodup := by
    rw [List.nil_append, (List.mergeSort_perm _ _).nodup_iff]
    exact (h.nodup_sorted_placesBelow m).filter _
  pairwise := (List.pairwise_mergeSort deepestFirst_trans deepestFirst_total _).imp fun h => of_decide_eq_true h

/-- When it is the turn of the places `zs`, all that is below them has had its turn. -/
structure Turn (d : Disk) (m : Place) (ys zs : List Place) : Prop where
  mem : ∀ l, l ∈ ys ++ zs ↔ d.Below m l ∧ d.get? l = some .directory
  nodup : (ys ++ zs).Nodup
  pairwise : (ys ++ zs).Pairwise fun k l => l.length ≤ k.length

namespace Turn

theorem inTurn (t : Turn d m ys zs) : InTurn (fun l => d.Below m l ∧ d.get? l = some .directory) ys zs :=
  ⟨t.mem, t.nodup, t.pairwise⟩

theorem next (t : Turn d m ys (x :: zs)) : Turn d m (ys ++ [x]) zs :=
  ⟨t.inTurn.next.mem, t.inTurn.next.nodup, t.inTurn.next.pairwise⟩

theorem head (t : Turn d m ys (x :: zs)) : d.Below m x ∧ d.get? x = some .directory := t.inTurn.head

theorem head_notMem (t : Turn d m ys (x :: zs)) : x ∉ ys := t.inTurn.head_notMem

theorem ne_nil (t : Turn d m ys zs) : ∀ y ∈ ys, y ≠ [] := by
  rintro y hy rfl
  have := ((t.mem []).1 (List.mem_append_left zs hy)).1
  exact absurd this.length_lt (Nat.not_lt_zero _)

/-- What is below a place whose turn it is had its turn. -/
theorem mem_of_below_head (t : Turn d m ys (x :: zs)) (hk : d.Below x k) (hd : d.get? k = some .directory) :
    k ∈ ys := t.inTurn.mem_of_longer_head ⟨t.head.1.trans hk, hd⟩ hk.length_lt

theorem mem_of_below_mem (t : Turn d m ys zs) (hx : x ∈ ys) (hk : d.Below x k)
    (hd : d.get? k = some .directory) : k ∈ ys :=
  t.inTurn.mem_of_longer_mem hx ⟨((t.mem x).1 (List.mem_append_left zs hx)).1.trans hk, hd⟩ hk.length_lt

end Turn

/-- The way to a folder goes through none of the places that are hollow. -/
def WayKept (d : Disk) (folder : Path) (ls : List Place) : Prop :=
  ∀ l ∈ ls, d.hollow l = true → l ∉ stops (d.start folder) folder.names

theorem LinkFree.directory_of_hollow (h : d.LinkFree) (hh : d.hollow l = true) (hs : (d.get? l).isSome) :
    d.get? l = some .directory := by
  cases he : d.get? l with
  | none => rw [he] at hs; cases hs
  | some e =>
    cases e with
    | directory => rfl
    | link t => exact absurd he (h l t)
    | file content =>
      have := hollow_iff.1 hh l (List.prefix_refl l)
      rw [file?_eq_some_iff.2 he] at this
      cases this

/-- What is wrong somewhere below a directory is wrong at or below something that stands in the directory. -/
theorem Sound.exists_child_of {q : Place → Prop} (h : d.Sound) (hl : q l) (hq : ∀ k, d.get? k = none → q k)
    (hne : ¬∀ k, l <+: k → q k) : ∃ name, (d.get? (l ++ [name])).isSome ∧ ¬∀ k, l ++ [name] <+: k → q k := by
  simp only [Classical.not_forall] at hne
  obtain ⟨_, ⟨rest, rfl⟩, hk⟩ := hne
  obtain ⟨e, he⟩ := Option.ne_none_iff_exists'.1 fun hnone => hk (hq _ hnone)
  cases rest with
  | nil => exact absurd (by rwa [List.append_nil]) hk
  | cons name rest =>
    refine ⟨name, ?_, fun hall => hk (hall _ ⟨rest, by simp⟩)⟩
    by_cases hr : rest = []
    · subst hr
      rw [he]
      rfl
    · rw [List.append_cons] at he
      rw [h.get?_of_append hr he]
      rfl

/-- A file below a directory is below something that stands in the directory. -/
theorem Sound.exists_child (h : d.Sound) (hd : d.get? l = some .directory) (hh : d.hollow l = false) :
    ∃ name, (d.get? (l ++ [name])).isSome ∧ d.hollow (l ++ [name]) = false := by
  simp only [← Bool.not_eq_true, hollow_iff] at hh ⊢
  exact h.exists_child_of (by rw [file?, hd]) (fun k hk => by rw [file?, hk]) hh

/-- What is left in a place decides whether it goes: one that stays keeps something, and one that goes has lost all
that was in it. -/
theorem hasChildren_without {g : Place → Bool}
    (hkept : g x = false → ∃ name, (d.get? (x ++ [name])).isSome ∧ g (x ++ [name]) = false)
    (hgone : g x = true → ∀ name, (d.get? (x ++ [name])).isSome → x ++ [name] ∈ ys ∧ g (x ++ [name]) = true) :
    (d.without fun l => ys.contains l && g l).hasChildren x = !g x := by
  cases hg : g x with
  | false =>
    obtain ⟨name, hp, hn⟩ := hkept hg
    rw [Bool.not_false, hasChildren_iff]
    exact ⟨name, by rwa [get?_without_of_not (by simp [hn])]⟩
  | true =>
    rw [Bool.not_true, Bool.eq_false_iff, Ne, hasChildren_iff]
    rintro ⟨name, hp⟩
    obtain ⟨e, he⟩ := Option.isSome_iff_exists.1 hp
    obtain ⟨hmem, hn⟩ := hgone hg name (by rw [get?_of_without he]; rfl)
    rw [get?_without_of (by simp) (by simp [hmem, hn])] at he
    cases he

/-- When a place has its turn, nothing is left in it if it is hollow. -/
theorem hasChildren_withoutHollow (hs : d.Sound) (hl : d.LinkFree) (t : Turn d m ys (x :: zs)) :
    (d.withoutHollow ys).hasChildren x = !d.hollow x := by
  refine hasChildren_without (hs.exists_child t.head.2) fun hh name hp => ?_
  have hbelow : x <+: x ++ [name] := List.prefix_append x [name]
  have hn := hollow_of_prefix hh hbelow
  exact ⟨t.mem_of_below_head ⟨hbelow, by simp, hp⟩ (hl.directory_of_hollow hn hp), hn⟩

namespace FolderAt

variable (h : d.FolderAt folder m)

include h

theorem withoutHollow (t : Turn d m ys zs) (hw : d.WayKept folder ys) :
    (d.withoutHollow ys).FolderAt folder m := by
  have hl := h.linkFree.without fun l => ys.contains l && d.hollow l
  have hf := h.linkFree.locate_directory_iff.1 ⟨h.locate, h.directory⟩
  have hstops : ∀ k ∈ stops (d.start folder) folder.names, (d.withoutHollow ys).get? k = some .directory := by
    intro k hk
    rw [Disk.withoutHollow, get?_without_of_not, hf.2.1 k hk]
    rw [Bool.eq_false_iff]
    intro hc
    simp only [Bool.and_eq_true, List.contains_iff_mem] at hc
    exact hw k hc.1 hc.2 hk
  have hm : (d.withoutHollow ys).locate true folder = .ok m ∧ _ :=
    hl.locate_directory_iff.2 ⟨hf.1, hstops, hf.2.2⟩
  refine ⟨h.sound.without fun l name hg hs => ?_, hl, hm.1, hm.2⟩
  simp only [Bool.and_eq_true, List.contains_iff_mem] at hg ⊢
  have hp : l <+: l ++ [name] := List.prefix_append l [name]
  have hh := hollow_of_prefix hg.2 hp
  exact ⟨t.mem_of_below_mem hg.1 ⟨hp, by simp, hs⟩ (h.linkFree.directory_of_hollow hh hs), hh⟩

end FolderAt

end Disk

namespace Cleaning

open Disk Run

variable {d : Disk} {folder : Path} {m x : Place} {ys zs : List Place} {events : List Event}

theorem without_concat (d : Disk) (g : Place → Bool) (ys : List Place) (x : Place) :
    (d.without fun l => (ys ++ [x]).contains l && g l) =
      if g x then (d.without fun l => ys.contains l && g l).erase x else d.without fun l => ys.contains l && g l := by
  split
  · next hg =>
    rw [without_erase]
    apply without_congr
    intro l _
    by_cases hl : l = x <;> simp [hl, hg]
  · next hg =>
    apply without_congr
    intro l _
    by_cases hl : l = x <;> simp [hl, hg]

theorem withoutHollow_concat (d : Disk) (ys : List Place) (x : Place) :
    d.withoutHollow (ys ++ [x]) = if d.hollow x then (d.withoutHollow ys).erase x else d.withoutHollow ys :=
  without_concat d d.hollow ys x

theorem outcome_pruneDirectory (h : d.FolderAt folder m) (t : Turn d m ys (x :: zs)) (hw : d.WayKept folder ys)
    (hfits : Fits folder (x.drop m.length)) (events : List Event) :
    outcome (pruneDirectory (pathTo folder m x)) ⟨d.withoutHollow ys, events⟩ =
      (.ok (), ⟨d.withoutHollow (ys ++ [x]), events⟩) := by
  have hf := h.withoutHollow t hw
  have hx : (d.withoutHollow ys).get? x = some .directory := by
    rw [get?_withoutHollow_of_not_mem t.head_notMem, t.head.2]
  have hb : (d.withoutHollow ys).Below m x := ⟨t.head.1.isPrefix, t.head.1.ne, by rw [hx]; rfl⟩
  have hl := hf.locate_pathTo hb
  simp only [if_pos hfits] at hl
  have he : (d.withoutHollow ys).entry (pathTo folder m x) = .ok .directory := by
    simp [entry, hl, hx, bind, Except.bind]
  have hc := hasChildren_withoutHollow h.sound h.linkFree t
  rw [pruneDirectory, outcome_act, outcome_bind, Action.outcome_isEmptyDirectory, he, withoutHollow_concat]
  cases hh : d.hollow x with
  | true =>
    rw [hh, Bool.not_true] at hc
    simp [hl, hc, Except.map, Action.outcome_removeDirectory, hx]
  | false =>
    rw [hh, Bool.not_false] at hc
    simp [hl, hc, Except.map]

/-- Once the way to the folder is cut, no directory below it is found any more. -/
theorem wayKept_of_pruneDirectory (h : d.FolderAt folder m) {l : Place}
    (ht : ∀ y ∈ ys, y ≠ []) (events : List Event)
    (hp : (outcome (pruneDirectory (pathTo folder m l)) ⟨d.withoutHollow ys, events⟩).1 = .ok ()) :
    d.WayKept folder ys := by
  intro y hy hh hs
  have hl : (d.withoutHollow ys).LinkFree := h.linkFree.without _
  have hd : (d.withoutHollow ys).isDirectory (pathTo folder m l) ≠ .ok true := by
    rw [Ne, hl.isDirectory_true_iff]
    rintro ⟨_, hstops⟩
    have hyd := hstops y (stops_append hs)
    rw [withoutHollow, get?_without_of (ht y hy) (by simp [hy, hh])] at hyd
    cases hyd
  rw [pruneDirectory, outcome_act, outcome_bind, Action.outcome_isEmptyDirectory] at hp
  cases he : (d.withoutHollow ys).entry (pathTo folder m l) with
  | error r => rw [he] at hp; cases hp
  | ok e =>
    cases e with
    | directory => exact absurd (by rw [isDirectory, test, he]) hd
    | file content => rw [he] at hp; cases hp
    | link t => rw [he] at hp; cases hp

theorem wayKept_append (hy : d.WayKept folder ys) (hz : d.WayKept folder zs) : d.WayKept folder (ys ++ zs) := by
  intro l hl
  cases List.mem_append.1 hl with
  | inl hl => exact hy l hl
  | inr hl => exact hz l hl

/-- As long as the way is kept, all places have their turn. -/
theorem outcome_forM_pruneDirectory (h : d.FolderAt folder m) (t : Turn d m ys zs)
    (hfits : AllFit folder m zs) (hy : d.WayKept folder ys) (hz : d.WayKept folder zs.dropLast)
    (events : List Event) :
    outcome ((zs.map (pathTo folder m)).forM pruneDirectory) ⟨d.withoutHollow ys, events⟩ =
      (.ok (), ⟨d.withoutHollow (ys ++ zs), events⟩) := by
  -- On what is still to do; a place moves over to what is done when it has had its turn.
  induction zs generalizing ys with
  | nil => rw [List.append_nil]; rfl
  | cons x zs ih =>
    obtain ⟨hfx, hfits⟩ := List.forall_mem_cons.1 hfits
    rw [List.map_cons, outcome_forM_cons, outcome_pruneDirectory h t hy hfx]
    dsimp only
    cases zs with
    | nil => rfl
    | cons z zs =>
      rw [List.append_cons ys x (z :: zs)]
      rw [List.dropLast_cons_cons] at hz
      apply ih t.next hfits
      · exact wayKept_append hy fun l hl => hz l (List.mem_cons.2 (.inl (List.mem_singleton.1 hl)))
      · exact fun l hl => hz l (List.mem_cons_of_mem x hl)

theorem wayKept_of_forM_pruneDirectory (h : d.FolderAt folder m) (t : Turn d m ys zs)
    (hfits : AllFit folder m zs) (hne : zs ≠ []) (events : List Event)
    (hp : (outcome ((zs.map (pathTo folder m)).forM pruneDirectory) ⟨d.withoutHollow ys, events⟩).1 = .ok ()) :
    d.WayKept folder (ys ++ zs.dropLast) := by
  induction zs generalizing ys with
  | nil => exact absurd rfl hne
  | cons x zs ih =>
    obtain ⟨hfx, hfits⟩ := List.forall_mem_cons.1 hfits
    rw [List.map_cons, outcome_forM_cons] at hp
    have hy : d.WayKept folder ys := by
      apply wayKept_of_pruneDirectory h t.ne_nil events (l := x)
      generalize outcome (pruneDirectory (pathTo folder m x)) ⟨d.withoutHollow ys, events⟩ = r at hp ⊢
      rcases r with ⟨_ | _, _⟩
      · cases hp
      · rfl
    rw [outcome_pruneDirectory h t hy hfx] at hp
    cases zs with
    | nil => simpa using hy
    | cons z zs =>
      rw [List.dropLast_cons_cons, List.append_cons]
      exact ih t.next hfits (List.cons_ne_nil z zs) hp

theorem pathTo_deepestFirst (folder : Path) {k l : Place} (hk : d.Below m k) (hl : d.Below m l) :
    deepestFirst k l =
      decide ((pathTo folder m l).names.length ≤ (pathTo folder m k).names.length) := by
  have hk := hk.length_lt
  have hl := hl.length_lt
  simp only [deepestFirst, pathTo, Path.below, List.length_append, List.length_drop, decide_eq_decide]
  omega

/-- The directories below a folder are the places whose paths answer so, in the order of their turns. -/
theorem directoriesBelow_eq_map {q : Place → Bool} (hm : d.locate true folder = .ok m)
    (hmd : d.get? m = some .directory) (hq : ∀ l, d.Below m l → d.isDirectory (pathTo folder m l) = .ok (q l)) :
    directoriesBelow d folder =
      .ok ((((sorted (d.placesBelow m)).filter q).mergeSort deepestFirst).map (pathTo folder m)) := by
  have hb : ∀ l ∈ sorted (d.placesBelow m), d.Below m l := fun l => mem_sorted_placesBelow.1
  have hf : ((sorted (d.placesBelow m)).map (pathTo folder m)).filterM d.isDirectory =
      .ok (((sorted (d.placesBelow m)).filter q).map (pathTo folder m)) := by
    refine filterM_eq_ok_iff.2 ⟨fun p => (d.isDirectory p).toOption.getD false, ?_, ?_⟩
    · intro p hp
      obtain ⟨l, hl, rfl⟩ := List.mem_map.1 hp
      simp [hq l (hb l hl), Except.toOption]
    · rw [List.filter_map]
      congr 1
      apply List.filter_congr
      intro l hl
      rw [Function.comp_apply, hq l (hb l hl)]
      rfl
  rw [directoriesBelow, pathsBelow_of_answers hm hmd fun l hl => ⟨q l, hq l hl⟩]
  simp only [bind, Except.bind, hf]
  congr 1
  rw [List.map_mergeSort]
  intro k hk l hl
  exact pathTo_deepestFirst folder (hb k (List.mem_filter.1 hk).1) (hb l (List.mem_filter.1 hl).1)

theorem directoriesBelow_eq (h : d.FolderAt folder m) (hfits : AllFit folder m (d.placesBelow m)) :
    directoriesBelow d folder = .ok ((d.directoriesIn m).map (pathTo folder m)) := by
  refine directoriesBelow_eq_map h.locate h.directory fun l hb => ?_
  rw [h.isDirectory_pathTo hb, if_pos (hfits l (mem_placesBelow_iff_below.2 hb))]

/-- The first turn is that of the deepest directories. -/
theorem turn_directoriesIn (h : d.Sound) (m : Place) : Turn d m [] (d.directoriesIn m) :=
  ⟨fun _ => mem_directoriesIn, (h.inTurn m _).nodup, (h.inTurn m _).pairwise⟩

theorem allFit_directoriesIn (hfits : AllFit folder m (d.placesBelow m)) :
    AllFit folder m (d.directoriesIn m) :=
  fun l hl => hfits l (mem_placesBelow_iff_below.2 (mem_directoriesIn.1 hl).1)

theorem outcome_prune_eq (h : d.FolderAt folder m) (hfits : AllFit folder m (d.placesBelow m))
    (events : List Event) : outcome (prune folder) ⟨d, events⟩ =
      outcome (((d.directoriesIn m).map (pathTo folder m)).forM pruneDirectory) ⟨d, events⟩ := by
  rw [prune, outcome_bind, outcome_ask]
  simp only [h.isDirectory, mapError_ok, if_true]
  rw [outcome_bind, outcome_ask]
  simp only [directoriesBelow_eq h hfits, mapError_ok]

/-- The empty directories are removed with those that this empties if the way to the folder is kept until
the last of them has its turn. -/
theorem outcome_prune (h : d.FolderAt folder m) (hfits : AllFit folder m (d.placesBelow m))
    (hw : d.WayKept folder (d.directoriesIn m).dropLast) (events : List Event) :
    outcome (prune folder) ⟨d, events⟩ = (.ok (), ⟨d.withoutHollow (d.directoriesIn m), events⟩) := by
  have ho := outcome_forM_pruneDirectory h (turn_directoriesIn h.sound m) (allFit_directoriesIn hfits)
    (fun l hl => by cases hl) hw events
  rwa [withoutHollow_nil, List.nil_append, ← outcome_prune_eq h hfits] at ho

theorem wayKept_of_prune (h : d.FolderAt folder m) (hfits : AllFit folder m (d.placesBelow m))
    (hp : (outcome (prune folder) ⟨d, events⟩).1 = .ok ()) :
    d.WayKept folder (d.directoriesIn m).dropLast := by
  cases hn : d.directoriesIn m with
  | nil => intro l hl; cases hl
  | cons x xs =>
    rw [outcome_prune_eq h hfits] at hp
    have ho := wayKept_of_forM_pruneDirectory h (turn_directoriesIn h.sound m)
      (allFit_directoriesIn hfits) (by rw [hn]; exact List.cons_ne_nil x xs) events
    rw [withoutHollow_nil, hn] at ho
    rw [hn] at hp
    exact ho hp

end Cleaning
end EntityGen
