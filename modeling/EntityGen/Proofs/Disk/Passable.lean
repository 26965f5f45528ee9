import EntityGen.Proofs.Disk.Passage

/-! Where there are no links: which directories can be made, and what making them leaves. -/

namespace EntityGen

namespace Path

theorem utf8ByteSize_intercalate_le (sep : String) (l m : List String) :
    (sep.intercalate l).utf8ByteSize ≤ (sep.intercalate (l ++ m)).utf8ByteSize := by
  by_cases hl : l = []
  · simp [hl]
  · by_cases hm : m = []
    · simp [hm]
    · rw [String.intercalate_append_of_ne_nil hl hm]
      simp only [String.utf8ByteSize_append]
      omega

/-- Only the dot that stands for no names is longer than what goes on from it. -/
theorem utf8ByteSize_text_le (p : Path) (names : List String) :
    p.text.utf8ByteSize ≤ max 1 (p.below names).text.utf8ByteSize := by
  have hle := utf8ByteSize_intercalate_le "/" p.names names
  by_cases hp : p.slashes = 0 ∧ p.names = []
  · have hdot : p.text = "." := by simp [text, hp]
    rw [hdot]
    exact Nat.le_max_left _ _
  · have hempty : ¬ (p.slashes = 0 ∧ p.names ++ names = []) := by
      rintro ⟨hs, hn⟩
      exact hp ⟨hs, (List.append_eq_nil_iff.1 hn).1⟩
    have htext : ∀ q : Path, ¬ (q.slashes = 0 ∧ q.names = []) →
        q.text = String.ofList (List.replicate q.slashes '/') ++ "/".intercalate q.names := by
      intro q hq
      simp only [text, Bool.and_eq_true, decide_eq_true_eq, List.isEmpty_iff, if_neg hq]
    rw [htext p hp, htext (p.below names) hempty, String.utf8ByteSize_append, String.utf8ByteSize_append]
    simp only [below]
    omega

end Path

namespace Disk

/-- As far as anything stands on the way of a path it is a directory, and the way starts at one. -/
structure Passable (d : Disk) (p : Path) : Prop where
  proper : IsProper p
  start : d.get? (d.start p) = some .directory
  way : ∀ l, d.LeadsThrough p l → d.file? l = none

instance (d : Disk) (p : Path) (l : Place) : Decidable (d.LeadsThrough p l) :=
  inferInstanceAs (Decidable (l ∈ stops (d.start p) p.names))

variable {d d' : Disk} {followLast : Bool} {n : Nat} {here l m : Place} {names : List String} {p : Path}
  {e : Entry}

theorem IsProper.of_below {names : List String} (h : IsProper (p.below names)) : IsProper p := by
  obtain ⟨hnul, htext, hnames⟩ := h
  refine ⟨?_, ?_, fun name hm => hnames name (List.mem_append_left _ hm)⟩
  · simp only [Path.hasNul, Path.below, List.any_append, Bool.or_eq_false_iff] at hnul
    exact hnul.1
  · have hle := p.utf8ByteSize_text_le names
    simp only [pathLimit] at htext ⊢
    omega

theorem mem_stops_self (here : Place) (names : List String) : here ∈ stops here names := by
  cases names <;> simp [stops]

theorem file?_eq_none_of_directory (h : d.get? l = some .directory) : d.file? l = none := by
  simp [file?, h]

theorem LinkFree.directory_of_not_file (hl : d.LinkFree) (hf : d.file? l = none) (he : d.get? l = some e) :
    e = .directory := by
  cases e with
  | directory => rfl
  | link t => exact absurd he (hl l t)
  | file content => simp [file?, he] at hf

theorem foldl_step_of_notMem (hn : ".." ∉ names) (here : Place) : names.foldl step here = here ++ names := by
  induction names generalizing here with
  | nil => simp
  | cons name rest ih =>
    simp only [List.mem_cons, not_or] at hn
    rw [List.foldl_cons, step_enter here (Ne.symm hn.1), ih hn.2]
    simp

theorem prefix_of_mem_stops (hn : ".." ∉ names) (hl : l ∈ stops here names) : l <+: here ++ names := by
  induction names generalizing here with
  | nil =>
    rw [List.mem_singleton.1 hl]
    exact List.prefix_append _ _
  | cons name rest ih =>
    simp only [List.mem_cons, not_or] at hn
    rw [stops, List.mem_cons] at hl
    rcases hl with rfl | hl
    · exact List.prefix_append _ _
    · rw [step_enter here (Ne.symm hn.1)] at hl
      simpa using ih hn.2 hl

/-- A way on which only directories stand ends where its names say, or nothing is there before its end. -/
theorem walk_of_passable (hd : d.Sound) (hl : d.LinkFree) (hh : d.get? here = some .directory)
    (hway : ∀ l ∈ stops here names, d.file? l = none)
    (hn : ∀ name ∈ names, name ≠ ".." → name.utf8ByteSize ≤ nameLimit) :
    d.walk followLast n here names = .ok (names.foldl step here) ∨
      d.walk followLast n here names = .error .missing := by
  induction names generalizing here with
  | nil =>
    left
    exact walk_nil (by simp [hh])
  | cons name rest ih =>
    rw [stops, List.forall_mem_cons] at hway
    obtain ⟨hsize, hrest⟩ := List.forall_mem_cons.1 hn
    rw [List.foldl_cons]
    by_cases hne : name = ".."
    · subst hne
      rw [walk_back hh]
      apply ih _ hway.2 hrest
      exact hd.get?_dropLast hh
    · have hs := hsize hne
      have hstep := step_enter here hne
      rw [hstep] at hway ⊢
      cases he : d.get? (here ++ [name]) with
      | none =>
        obtain ⟨jump, hj⟩ := walk_eq_walkWith d followLast n
        simp only [hj, walkWith_of_directory hh hne hs, he]
        cases rest <;> simp
      | some e =>
        have hf : d.file? (here ++ [name]) = none := hway.2 _ (mem_stops_self _ _)
        have hdir : d.get? (here ++ [name]) = some .directory := by
          rw [he, hl.directory_of_not_file hf he]
        rw [walk_enter hh hne hs hdir (by simp)]
        exact ih hdir hway.2 hrest

namespace Passable

theorem locate (h : d.Passable p) (hd : d.Sound) (hl : d.LinkFree) (followLast : Bool) :
    d.locate followLast p = .ok (d.placeOf p) ∨ d.locate followLast p = .error (.refusal .missing) := by
  have hw : d.walk followLast linkLimit (d.start p) p.names = .ok (d.placeOf p) ∨ _ :=
    walk_of_passable hd hl h.start h.way h.proper.2.2
  rw [Disk.locate, h.proper.1, if_neg Bool.false_ne_true, if_neg (Nat.not_lt.2 h.proper.2.1)]
  rcases hw with hw | hw
  · rw [hw]
    exact .inl rfl
  · rw [hw]
    exact .inr rfl

theorem of_adds (h : d.Passable p) (ha : d.Adds d') : d'.Passable p where
  proper := h.proper
  start := by
    rw [start_congr ha.home]
    exact ha.directory _ h.start
  way l hl := by
    rw [ha.same]
    exact h.way l ((leadsThrough_congr ha.home).1 hl)

theorem of_below (h : d.Passable (p.below names)) : d.Passable p where
  proper := h.proper.of_below
  start := h.start
  way l hl := h.way l <| leadsThrough_of_prefix (List.prefix_append _ _) hl

theorem of_isDirectory (hl : d.LinkFree) (h : d.isDirectory p = .ok true) : d.Passable p := by
  obtain ⟨hp, hs⟩ := hl.isDirectory_true_iff.1 h
  exact ⟨hp, hs _ (mem_stops_self _ _), fun l hl => file?_eq_none_of_directory (hs l hl)⟩

end Passable

/-- A single name is entered from a directory unless it is too long. -/
theorem walk_singleton (hd : d.Sound) (hl : d.LinkFree) (hm : d.get? m = some .directory) (name : String) :
    d.walk followLast n m [name] =
      if name ≠ ".." → name.utf8ByteSize ≤ nameLimit then .ok (step m name) else .error .nameTooLong := by
  by_cases hne : name = ".."
  · subst hne
    rw [if_pos (absurd rfl ·), walk_back hm]
    exact walk_nil (by simp [hd.get?_dropLast hm])
  · by_cases hs : name.utf8ByteSize ≤ nameLimit
    · rw [if_pos fun _ => hs, step_enter m hne]
      cases he : d.get? (m ++ [name]) with
      | none => exact walk_missing hm hne hs he
      | some e =>
        rw [walk_enter hm hne hs he fun t ht => hl _ t (ht ▸ he)]
        exact walk_nil (by simp [he])
    · rw [if_neg fun h => hs (h hne), walk_long hm hne (Nat.lt_of_not_le hs)]

/-- What follows the way of a path follows the way to what is above and then the last name. -/
theorem exists_walk_of_parent (hl : d.LinkFree) (hparent : d.isDirectory p.parent = .ok true) (hn : p.names ≠ []) :
    ∃ m name k, d.get? m = some .directory ∧ p.names = p.parent.names ++ [name] ∧ d.placeOf p = step m name ∧
      ∀ followLast, d.walk followLast linkLimit (d.start p) p.names = d.walk followLast k m [name] := by
  obtain ⟨m, hm, hmd⟩ := isDirectory_iff.1 hparent
  obtain ⟨name, hname⟩ : ∃ name, p.names = p.parent.names ++ [name] :=
    ⟨p.names.getLast hn, (List.dropLast_concat_getLast hn).symm⟩
  have hstart : d.start p.parent = d.start p := rfl
  obtain ⟨k, hk⟩ := (locate_eq_ok_iff.1 hm).2.2.walk_append hmd (List.cons_ne_nil name [])
  refine ⟨m, name, k, hmd, hname, ?_, fun followLast => ?_⟩
  · rw [hl.locate_eq_placeOf hm, placeOf_eq, placeOf_eq, hname, List.foldl_append, hstart]
    rfl
  · rw [← hk followLast, hstart, ← hname]

instance (p : Path) : Decidable (IsProper p) := inferInstanceAs (Decidable (_ ∧ _ ∧ _))

/-- Below a directory that is there a path is followed unless it is too long. -/
theorem locate_eq_of_parent (hd : d.Sound) (hl : d.LinkFree) (hparent : d.isDirectory p.parent = .ok true) :
    d.locate followLast p =
      if p.hasNul then .error .nul
      else if IsProper p then .ok (d.placeOf p) else .error (.refusal .nameTooLong) := by
  rw [Disk.locate]
  by_cases hnul : p.hasNul = true
  · rw [if_pos hnul, if_pos hnul]
  · rw [if_neg hnul, if_neg hnul]
    by_cases htext : pathLimit < p.text.utf8ByteSize
    · rw [if_pos htext, if_neg fun hp => Nat.not_lt.2 hp.2.1 htext]
    · rw [if_neg htext]
      have hproper : IsProper p ↔ ∀ name ∈ p.names, name ≠ ".." → name.utf8ByteSize ≤ nameLimit :=
        ⟨fun hp => hp.2.2, fun h => ⟨by simpa using hnul, Nat.le_of_not_lt htext, h⟩⟩
      have hdirs := hl.isDirectory_true_iff.1 hparent
      by_cases hn : p.names = []
      · have hstart : d.get? (d.start p) = some .directory := hdirs.2 _ (mem_stops_self _ _)
        rw [if_pos (hproper.2 (by simp [hn])), placeOf_eq, hn, walk_nil (by simp [hstart])]
        rfl
      · -- Only the last name can be too long, for the way to it leads to a directory.
        obtain ⟨m, name, k, hm, hname, hplace, hwalk⟩ := exists_walk_of_parent hl hparent hn
        have hlast : IsProper p ↔ (name ≠ ".." → name.utf8ByteSize ≤ nameLimit) := by
          rw [hproper, hname, List.forall_mem_append, List.forall_mem_singleton]
          exact and_iff_right hdirs.1.2.2
        rw [hwalk, walk_singleton hd hl hm, hplace]
        simp only [hlast]
        split <;> rfl

theorem locate_of_parent (hd : d.Sound) (hl : d.LinkFree) (hp : IsProper p)
    (hparent : d.isDirectory p.parent = .ok true) : d.locate followLast p = .ok (d.placeOf p) := by
  rw [locate_eq_of_parent hd hl hparent, hp.1, if_neg Bool.false_ne_true, if_pos hp]

theorem isProper_of_locate (hd : d.Sound) (hl : d.LinkFree) (hparent : d.isDirectory p.parent = .ok true)
    (h : d.locate followLast p = .ok l) : IsProper p := by
  rw [locate_eq_of_parent hd hl hparent] at h
  split at h
  · cases h
  · split at h
    · next hp => exact hp
    · cases h

/-- What can be asked about a path hangs on its names only where the directory above is there. -/
theorem exists_test_of_parent {q : Entry → Bool} (hd : d.Sound) (hl : d.LinkFree) (hd' : d'.Sound)
    (hl' : d'.LinkFree) (hparent : d.isDirectory p.parent = .ok true)
    (hparent' : d'.isDirectory p.parent = .ok true) (ha : ∃ b, d.test q p = .ok b) :
    ∃ b, d'.test q p = .ok b := by
  refine exists_test_iff.2 fun hp => exists_test_iff.1 ha ?_
  rw [locate_eq_of_parent hd' hl' hparent'] at hp
  rw [locate_eq_of_parent hd hl hparent]
  split at hp
  · cases hp
  · next hnul =>
    split at hp
    · cases hp
    · next hproper => rw [if_neg hnul, if_neg hproper]

end Disk

namespace Action

open Disk

variable {d d' : Disk} {l : Place} {p : Path}

theorem outcome_allowDirectory_of_isDirectory (h : d.isDirectory p = .ok true) (r : Refusal) :
    outcome (allowDirectory p (.refusal r)) d = (.ok (), d) := by
  simp [allowDirectory, outcome_bind, h]

theorem outcome_ensureDirectories_of_isDirectory (hl : d.LinkFree) (h : d.isDirectory p = .ok true) :
    outcome (ensureDirectories p) d = (.ok (), d) := by
  obtain ⟨l, hp, hdir⟩ := isDirectory_iff.1 h
  rw [hl.locate_eq true false] at hp
  have hmake : outcome (makeDirectory p) d = (.error (.refusal .exists), d) := by
    simp [outcome_makeDirectory, hp, hdir]
  have hrev : (⟨p.slashes, p.names.reverse.reverse⟩ : Path) = p := by rw [List.reverse_reverse]
  rw [ensureDirectories]
  cases hn : p.names.reverse with
  | nil =>
    rw [hn] at hrev
    rw [ensureNames, ensureDirectory, outcome_tryCatch, show (⟨p.slashes, []⟩ : Path) = p from hrev, hmake]
    exact outcome_allowDirectory_of_isDirectory h _
  | cons name above =>
    rw [hn] at hrev
    rw [ensureNames, outcome_tryCatch, hrev, hmake]
    exact outcome_allowDirectory_of_isDirectory h _

theorem exists_ensureDirectory (hl : d.LinkFree) (h : d.Passable p)
    (hp : d.locate false p = .ok (d.placeOf p)) : ∃ d', outcome (ensureDirectory p) d = (.ok (), d') := by
  rw [ensureDirectory, outcome_tryCatch, outcome_makeDirectory, hp]
  dsimp only
  cases he : d.get? (d.placeOf p) with
  | none => exact ⟨_, rfl⟩
  | some e =>
    have hdir := hl.directory_of_not_file (h.way _ (leadsThrough_placeOf d p)) he
    have hd : d.isDirectory p = .ok true := by
      rw [hl.locate_eq false true] at hp
      exact isDirectory_iff.2 ⟨_, hp, by rw [he, hdir]⟩
    exact ⟨d, outcome_allowDirectory_of_isDirectory hd _⟩

theorem exists_ensureNames {slashes : Nat} {names : List String} (hd : d.Sound) (hl : d.LinkFree)
    (h : d.Passable ⟨slashes, names.reverse⟩) : ∃ d', outcome (ensureNames slashes names) d = (.ok (), d') := by
  induction names with
  | nil =>
    have hparent : d.isDirectory (Path.parent ⟨slashes, []⟩) = .ok true := by
      refine hl.isDirectory_true_iff.2 ⟨h.proper, fun m hm => ?_⟩
      rw [List.mem_singleton.1 hm]
      exact h.start
    exact exists_ensureDirectory hl h (locate_of_parent hd hl h.proper hparent)
  | cons name above ih =>
    rw [ensureNames, outcome_tryCatch, outcome_makeDirectory]
    rcases h.locate hd hl false with hp | hp
    · -- All that is above is there.
      obtain ⟨d', hd'⟩ := exists_ensureDirectory hl h hp
      rw [ensureDirectory, outcome_tryCatch, outcome_makeDirectory] at hd'
      rw [hp] at hd' ⊢
      dsimp only at hd' ⊢
      cases he : d.get? (d.placeOf ⟨slashes, (name :: above).reverse⟩) with
      | none => exact ⟨_, rfl⟩
      | some e =>
        rw [he] at hd'
        exact ⟨d', hd'⟩
    · rw [hp]
      have habove : (⟨slashes, (name :: above).reverse⟩ : Path) = Path.below ⟨slashes, above.reverse⟩ [name] := by
        simp [Path.below]
      obtain ⟨d₁, h₁⟩ := ih (.of_below (habove ▸ h))
      have ha := ensureNames_adds slashes above d (.refl hd)
      rw [h₁] at ha
      have hl₁ := ha.linkFree hl
      have hparent : d₁.isDirectory (Path.parent ⟨slashes, (name :: above).reverse⟩) = .ok true := by
        have hdir := isDirectory_of_ensureNames hd hl h₁
        rwa [habove, Path.parent, Path.below, List.dropLast_concat]
      have h' := h.of_adds ha
      obtain ⟨d₂, h₂⟩ := exists_ensureDirectory hl₁ h' (locate_of_parent ha.sound hl₁ h.proper hparent)
      exact ⟨d₂, outcome_bind_eq_ok_iff.2 ⟨(), d₁, h₁, h₂⟩⟩

/-! Nothing is made where the way does not start at a directory. -/

/-- Relative paths start from `m`, where no directory is. -/
def Adrift (m : Place) (d : Disk) : Prop := d.home = m ∧ d.get? m ≠ some .directory

theorem makeDirectory_adrift (hp : p.isAbsolute = false) : Preserves (Adrift m) (makeDirectory p) := by
  rintro d ⟨hhome, hdir⟩
  rw [outcome_makeDirectory]
  split
  · exact ⟨hhome, hdir⟩
  · next l hl =>
    split
    · exact ⟨hhome, hdir⟩
    · next hf =>
      have hstart : d.start p = m := by simp [start, hp, hhome]
      have hw := (locate_eq_ok_iff.1 hl).2.2
      rw [hstart] at hw
      generalize p.names = names at hw
      cases hw with
      | here hs => simp [hf] at hs
      | back hd | enter hd | missing hd | stop hd | follow hd => exact absurd hd hdir

theorem allowDirectory_adrift (p : Path) (t : Trouble) : Preserves (Adrift m) (allowDirectory p t) := by
  intro d h
  rwa [outcome_allowDirectory]

theorem ensureDirectory_adrift (hp : p.isAbsolute = false) : Preserves (Adrift m) (ensureDirectory p) := by
  refine (makeDirectory_adrift hp).tryCatch fun t => ?_
  split
  · exact fun _ h => h
  · exact allowDirectory_adrift p _

theorem ensureNames_adrift {slashes : Nat} {names : List String} (hs : slashes = 0) :
    Preserves (Adrift m) (ensureNames slashes names) := by
  have hp : ∀ names, Path.isAbsolute ⟨slashes, names⟩ = false := fun names => by simp [Path.isAbsolute, hs]
  induction names with
  | nil => exact ensureDirectory_adrift (hp _)
  | cons name above ih =>
    refine (makeDirectory_adrift (hp _)).tryCatch fun t => ?_
    split
    · exact ih.bind fun _ => ensureDirectory_adrift (hp _)
    · exact allowDirectory_adrift _ _

theorem start_of_ensureDirectories (hd : d.Sound) (hl : d.LinkFree)
    (h : outcome (ensureDirectories p) d = (.ok (), d')) : d.get? (d.start p) = some .directory := by
  by_cases hp : p.isAbsolute = true
  · simp [start, hp]
  · have hs : p.slashes = 0 := by simpa [Path.isAbsolute] using hp
    have hstart : d.start p = d.home := by simp [start, hp]
    rw [hstart]
    apply Classical.byContradiction
    intro hdir
    have hkeeps : Preserves (Adrift d.home) (ensureNames p.slashes p.names.reverse) := ensureNames_adrift hs
    have hadrift := hkeeps d ⟨rfl, hdir⟩
    have ha := adds_of_ensureDirectories hd h
    have hd' := isDirectory_of_ensureDirectories hd hl h
    rw [ensureDirectories] at h
    rw [h] at hadrift
    have hmem := ((ha.linkFree hl).isDirectory_true_iff.1 hd').2 _ (mem_stops_self _ _)
    rw [start_congr ha.home, hstart] at hmem
    exact hadrift.2 hmem

/-- A directory and those above it can be made if no file is in the way, and only then. -/
theorem ensureDirectories_ok_iff (hd : d.Sound) (hl : d.LinkFree) :
    (∃ d', outcome (ensureDirectories p) d = (.ok (), d')) ↔ d.Passable p := by
  constructor
  · rintro ⟨d', h⟩
    have ha := adds_of_ensureDirectories hd h
    have hpass : d'.Passable p := .of_isDirectory (ha.linkFree hl) (isDirectory_of_ensureDirectories hd hl h)
    refine ⟨hpass.proper, start_of_ensureDirectories hd hl h, fun l hway => ?_⟩
    rw [← ha.same]
    exact hpass.way l ((leadsThrough_congr ha.home).2 hway)
  · intro h
    apply exists_ensureNames hd hl
    rwa [List.reverse_reverse]

/-- Making directories leaves directories on the way, and all else as it was. -/
theorem get?_of_ensureDirectories (hd : d.Sound) (hl : d.LinkFree)
    (h : outcome (ensureDirectories p) d = (.ok (), d')) (l : Place) :
    d'.get? l = if d.LeadsThrough p l then some .directory else d.get? l := by
  split
  · next hway =>
    have ha := adds_of_ensureDirectories hd h
    have hd' := isDirectory_of_ensureDirectories hd hl h
    exact ((ha.linkFree hl).isDirectory_true_iff.1 hd').2 l ((leadsThrough_congr ha.home).2 hway)
  · next hway =>
    have hspares := ensureDirectories_spares hway d (.refl hl)
    rw [h] at hspares
    exact hspares.same

end Action
end EntityGen
