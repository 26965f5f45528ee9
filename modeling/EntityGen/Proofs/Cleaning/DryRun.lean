import EntityGen.Proofs.Cleaning.Prune

/-! How a dry run tells what cleaning frees. -/

namespace EntityGen

namespace Disk

/-- The bytes of all files below a place. -/
def total (d : Disk) (m : Place) : Nat := ((d.placesBelow m).map d.sizeAt).sum

variable {d : Disk} {folder : Path} {l m : Place} {ls : List Place}

theorem Below.directory (h : d.Sound) (hb : d.Below m l) : d.get? m = some .directory := by
  obtain ⟨e, he⟩ := Option.isSome_iff_exists.1 hb.present
  rw [← hb.append_drop] at he
  exact h.get?_of_append hb.drop_ne_nil he

theorem directory_withoutFiles (d : Disk) (ls : List Place) (l : Place) :
    (d.withoutFiles ls).get? l = some .directory ↔ d.get? l = some .directory := by
  constructor
  · exact get?_of_without
  · intro hd
    rw [withoutFiles, get?_without_of_not, hd]
    simp [file?, hd]

theorem directoriesIn_withoutFiles (d : Disk) (ls : List Place) (m : Place) :
    (d.withoutFiles ls).directoriesIn m = d.directoriesIn m := by
  rw [directoriesIn, directoriesIn, filter_sorted, filter_sorted]
  simp only [directory_withoutFiles]
  rw [withoutFiles, placesBelow_without, List.filter_filter]
  congr 2
  apply List.filter_congr
  intro l _
  by_cases hd : d.get? l = some .directory <;> simp [hd, file?]

/-- What the files among some places hold is missing when they are gone. -/
theorem total_withoutFiles (h : d.Sound) (hn : ls.Nodup) (hf : ∀ l ∈ ls, (d.file? l).isSome) (m : Place) :
    d.total m =
      (d.withoutFiles ls).total m + ((ls.filter fun l => (d.placesBelow m).contains l).map d.sizeAt).sum := by
  have hgone : ∀ l, (ls.contains l && (d.file? l).isSome) = ls.contains l := by
    intro l
    by_cases hl : l ∈ ls <;> simp [hl, hf]
  have hkept : (d.withoutFiles ls).total m =
      (((d.placesBelow m).filter fun l => !ls.contains l).map d.sizeAt).sum := by
    simp only [total, withoutFiles, placesBelow_without, hgone]
    congr 1
    apply List.map_congr_left
    intro l hl
    apply sizeAt_congr
    rw [get?_without_of_not]
    simpa using (List.mem_filter.1 hl).2
  have hpart : (ls.filter fun l => (d.placesBelow m).contains l).Perm
      ((d.placesBelow m).filter fun l => ls.contains l) := by
    rw [List.perm_ext_iff_of_nodup (hn.filter _) ((h.nodup_placesBelow m).filter _)]
    intro l
    simp [and_comm]
  rw [hkept, (hpart.map _).sum_nat, Nat.add_comm, ← List.sum_append_nat, ← List.map_append]
  exact ((List.filter_append_perm _ _).symm.map _).sum_nat

end Disk

namespace Cleaning

open Disk Run

variable {d : Disk} {folder : Path} {context : Option Path} {m : Place} {events : List Event}

/-- Where the file of the context is, if it is there. -/
def contextPlaces (d : Disk) : Option Path → List Place
  | none => []
  | some file =>
    match d.locate true file with
    | .ok l => if (d.file? l).isSome then [l] else []
    | .error _ => []

/-- The place of the context's file if it is below the folder of the models. -/
def contextBelow (d : Disk) (folder : Path) (context : Option Path) : List Place :=
  match d.locate true folder with
  | .ok m => (contextPlaces d context).filter fun l => (d.placesBelow m).contains l
  | .error _ => []

/-- What a dry run counts twice. -/
def recounted (d : Disk) (folder : Path) (context : Option Path) : Nat :=
  ((contextBelow d folder context).map d.sizeAt).sum

/-- The way to the folder goes through a directory below it that is removed before the last one. -/
def Undercut (d : Disk) (folder : Path) : Prop :=
  ∃ m, d.locate true folder = .ok m ∧
    ∃ l ∈ (d.directoriesIn m).dropLast, l ∈ stops (d.start folder) folder.names

/-- The path through the folder to the context's file is too long. -/
def Overlong (d : Disk) (folder : Path) (context : Option Path) : Prop :=
  ∃ m, d.locate true folder = .ok m ∧ ¬ AllFit folder m (contextBelow d folder context)

theorem nodup_contextPlaces (d : Disk) (context : Option Path) : (contextPlaces d context).Nodup := by
  unfold contextPlaces
  repeat' split
  all_goals simp

theorem file_of_mem_contextPlaces {l : Place} (hl : l ∈ contextPlaces d context) : (d.file? l).isSome := by
  unfold contextPlaces at hl
  split at hl
  · cases hl
  · split at hl
    · split at hl
      · next hf => rwa [List.mem_singleton.1 hl]
      · cases hl
    · cases hl

theorem contextPlaces_of_not_isFile {file : Path} (hq : d.isFile file ≠ .ok true) :
    contextPlaces d (some file) = [] := by
  cases hp : d.locate true file with
  | error t => simp only [contextPlaces, hp]
  | ok l =>
    simp only [contextPlaces, hp]
    cases hf : d.file? l with
    | none => rfl
    | some content => exact absurd (isFile_iff.2 ⟨l, content, hp, file?_eq_some_iff.1 hf⟩) hq

/-- It can be told whether the file of the context is there. -/
def ContextAnswers (d : Disk) (context : Option Path) : Prop :=
  ∀ file, context = some file → ∃ b, d.isFile file = .ok b

theorem cleanContext_of_answers (hl : d.LinkFree) (hc : ContextAnswers d context) (dry : Bool)
    (events : List Event) : ∃ events', outcome (cleanContext dry context) ⟨d, events⟩ =
      (.ok ((contextPlaces d context).map d.sizeAt).sum, ⟨leaves dry d (contextPlaces d context), events'⟩) := by
  cases context with
  | none => exact ⟨events, by rw [contextPlaces, leaves_nil]; rfl⟩
  | some file =>
    obtain ⟨b, hq⟩ := hc file rfl
    cases b with
    | true =>
      obtain ⟨l, content, hp, he⟩ := isFile_iff.1 hq
      have hf : (d.file? l).isSome := by rw [file?_eq_some_iff.2 he]; rfl
      obtain ⟨events', ho⟩ := outcome_removeFile_of_isFile hl hp hf dry events
      refine ⟨events', ?_⟩
      simp only [contextPlaces, hp, hf, if_true]
      rw [cleanContext, ho]
      simp
    | false =>
      refine ⟨events, ?_⟩
      rw [contextPlaces_of_not_isFile (by simp [hq]), leaves_nil]
      simp [cleanContext, removeFile, outcome_bind, outcome_ask, hq]

theorem cleanContext_of_not_answers (hc : ¬ ContextAnswers d context) (events : List Event) :
    ∃ f, ∀ dry, (outcome (cleanContext dry context) ⟨d, events⟩).1 = .error f := by
  simp only [ContextAnswers, Classical.not_forall] at hc
  obtain ⟨file, rfl, hc⟩ := hc
  cases hq : d.isFile file with
  | ok b => exact absurd ⟨b, hq⟩ hc
  | error r =>
    refine ⟨.data (.refused r), fun dry => ?_⟩
    simp [cleanContext, removeFile, outcome_bind, outcome_ask, hq]

/-- The context comes to the same in both modes. -/
theorem outcome_cleanContext (hl : d.LinkFree) (context : Option Path) (events : List Event) :
    (∃ f, ∀ dry, (outcome (cleanContext dry context) ⟨d, events⟩).1 = .error f) ∨
      ∀ dry, ∃ events', outcome (cleanContext dry context) ⟨d, events⟩ =
        (.ok ((contextPlaces d context).map d.sizeAt).sum,
          ⟨leaves dry d (contextPlaces d context), events'⟩) := by
  by_cases hc : ContextAnswers d context
  · exact .inr fun dry => cleanContext_of_answers hl hc dry events
  · exact .inl (cleanContext_of_not_answers hc events)

theorem sum_sizeAt_sorted (d : Disk) (m : Place) : ((sorted (d.placesBelow m)).map d.sizeAt).sum = d.total m :=
  ((sorted_perm _).map _).sum_nat

theorem allFit_sorted_iff {ls : List Place} : AllFit folder m (sorted ls) ↔ AllFit folder m ls :=
  forall_congr' fun _ => by rw [(sorted_perm ls).mem_iff]

theorem outcome_removeFiles_sorted (h : d.FolderAt folder m) (hfits : AllFit folder m (d.placesBelow m))
    (dry : Bool) (events : List Event) :
    ∃ events', outcome (removeFiles dry ((sorted (d.placesBelow m)).map (pathTo folder m))) ⟨d, events⟩ =
      (.ok (d.total m), ⟨leaves dry d (sorted (d.placesBelow m)), events'⟩) := by
  rw [← sum_sizeAt_sorted]
  apply outcome_removeFiles h fun _ => mem_sorted_placesBelow.1
  · exact h.sound.nodup_sorted_placesBelow m
  · exact allFit_sorted_iff.2 hfits

theorem outcome_cleanModels_eq (h : d.FolderAt folder m)
    (hps : d.pathsBelow folder = .ok ((sorted (d.placesBelow m)).map (pathTo folder m))) (dry : Bool)
    (events : List Event) : outcome (cleanModels dry folder) ⟨d, events⟩ = outcome (do
      let bytes ← removeFiles dry ((sorted (d.placesBelow m)).map (pathTo folder m))
      if !dry then prune folder
      return bytes) ⟨d, events⟩ := by
  rw [cleanModels, outcome_bind, outcome_ask]
  simp only [h.isDirectory, mapError_ok, if_true]
  rw [outcome_bind, outcome_ask]
  simp only [hps, mapError_ok]

theorem outcome_cleanModels_of_error (h : d.FolderAt folder m) {r : Refusal} (hps : d.pathsBelow folder = .error r)
    (dry : Bool) (events : List Event) :
    outcome (cleanModels dry folder) ⟨d, events⟩ = (.error (.data (.refused r)), ⟨d, events⟩) := by
  simp [cleanModels, outcome_bind, outcome_ask, h.isDirectory, hps]

/-- A directory whose path is too long is found out before anything is removed. -/
theorem outcome_cleanModels_of_long_directory {l : Place} (h : d.FolderAt folder m) (hb : d.Below m l)
    (hdir : d.get? l = some .directory) (hlong : ¬ Fits folder (l.drop m.length)) (dry : Bool)
    (events : List Event) : outcome (cleanModels dry folder) ⟨d, events⟩ =
      (.error (.data (.refused .nameTooLong)), ⟨d, events⟩) := by
  refine outcome_cleanModels_of_error h ?_ dry events
  rcases pathsBelow_or h with hps | hps
  · rw [pathsBelow_eq h.locate h.directory] at hps
    obtain ⟨b, hopen⟩ := (pathsOf_eq_ok_iff.1 hps).2 l (mem_sorted_placesBelow.2 hb) hdir
    rw [h.isDirectory_pathTo hb, if_neg hlong] at hopen
    cases hopen
  · exact hps

theorem cleanModels_of_not_fit (h : d.FolderAt folder m) (hfits : ¬ AllFit folder m (d.placesBelow m))
    (dry : Bool) (events : List Event) :
    (outcome (cleanModels dry folder) ⟨d, events⟩).1 = .error (.data (.refused .nameTooLong)) := by
  rcases pathsBelow_or h with hps | hps
  · have hr := removeFiles_of_not_allFit h (fun _ => mem_sorted_placesBelow.1) (h.sound.nodup_sorted_placesBelow m)
      (fun hf => hfits (allFit_sorted_iff.1 hf)) dry events
    rw [outcome_cleanModels_eq h hps, outcome_bind]
    generalize outcome (removeFiles dry _) ⟨d, events⟩ = r at hr ⊢
    rcases r with ⟨_ | _, _⟩
    · exact hr
    · cases hr
  · rw [outcome_cleanModels_of_error h hps]

theorem cleanModels_dry_ok_iff (h : d.FolderAt folder m) {n : Nat} :
    (outcome (cleanModels true folder) ⟨d, events⟩).1 = .ok n ↔
      AllFit folder m (d.placesBelow m) ∧ n = d.total m := by
  by_cases hfits : AllFit folder m (d.placesBelow m)
  · obtain ⟨events', ho⟩ := outcome_removeFiles_sorted h hfits true events
    rw [outcome_cleanModels_eq h (pathsBelow_of_allFit h hfits), outcome_bind, ho]
    simp [hfits, eq_comm]
  · rw [cleanModels_of_not_fit h hfits]
    simp [hfits]

theorem allFit_withoutFiles (hfits : AllFit folder m (d.placesBelow m)) (ls : List Place) :
    AllFit folder m ((d.withoutFiles ls).placesBelow m) := by
  intro l hl
  rw [withoutFiles, placesBelow_without] at hl
  exact hfits l (List.mem_filter.1 hl).1

/-- Where all files below a folder are gone, all that is left there is hollow. -/
theorem hollow_withoutFiles {l : Place} (hb : d.Below m l) :
    (d.withoutFiles (sorted (d.placesBelow m))).hollow l = true := by
  rw [hollow_iff]
  intro k hk
  rw [file?_withoutFiles]
  split
  · rfl
  · next hn =>
    cases hf : d.file? k with
    | none => rfl
    | some content =>
      have hs : (d.get? k).isSome := by rw [file?_eq_some_iff.1 hf]; rfl
      have hlen := Nat.lt_of_lt_of_le hb.length_lt hk.length_le
      have hbk : d.Below m k := ⟨hb.isPrefix.trans hk, fun he => by rw [he] at hlen; omega, hs⟩
      exact absurd (mem_sorted_placesBelow.2 hbk) hn

theorem wayKept_withoutFiles_iff (h : d.FolderAt folder m) :
    (d.withoutFiles (sorted (d.placesBelow m))).WayKept folder (d.directoriesIn m).dropLast ↔
      ¬ Undercut d folder := by
  constructor
  · rintro hw ⟨m', hm', l, hl, hs⟩
    obtain rfl : m' = m := Except.ok.inj (hm'.symm.trans h.locate)
    exact hw l hl (hollow_withoutFiles (mem_directoriesIn.1 ((List.dropLast_sublist _).subset hl)).1) hs
  · intro hu l hl _ hs
    exact hu ⟨m, h.locate, l, hl, hs⟩

theorem prune_ok_iff (h : d.FolderAt folder m) (hfits : AllFit folder m (d.placesBelow m))
    (events : List Event) :
    (outcome (prune folder) ⟨d.withoutFiles (sorted (d.placesBelow m)), events⟩).1 = .ok () ↔
      ¬ Undercut d folder := by
  have hf := h.withoutFiles (sorted (d.placesBelow m))
  have hd := directoriesIn_withoutFiles d (sorted (d.placesBelow m)) m
  have ha := allFit_withoutFiles hfits (sorted (d.placesBelow m))
  rw [← wayKept_withoutFiles_iff h, ← hd]
  constructor
  · exact wayKept_of_prune hf ha
  · intro hw
    rw [outcome_prune hf ha hw]

theorem cleanModels_ok_iff (h : d.FolderAt folder m) {n : Nat} :
    (outcome (cleanModels false folder) ⟨d, events⟩).1 = .ok n ↔
      AllFit folder m (d.placesBelow m) ∧ n = d.total m ∧ ¬ Undercut d folder := by
  by_cases hfits : AllFit folder m (d.placesBelow m)
  · obtain ⟨events', ho⟩ := outcome_removeFiles_sorted h hfits false events
    have hp := prune_ok_iff h hfits events'
    rw [outcome_cleanModels_eq h (pathsBelow_of_allFit h hfits), outcome_bind, ho]
    simp only [Bool.not_false, if_true, leaves, Bool.false_eq_true, if_false]
    rw [outcome_bind]
    generalize outcome (prune folder) ⟨d.withoutFiles (sorted (d.placesBelow m)), events'⟩ = r at hp ⊢
    rcases r with ⟨_ | _, _⟩
    · simp at hp
      simp [hp]
    · simp at hp
      simp [hp, hfits, eq_comm]
  · rw [cleanModels_of_not_fit h hfits]
    simp [hfits]

/-! Both modes together. -/

theorem cleanModels_eq_ok_iff_of_not_directory (hq : d.isDirectory folder ≠ .ok true) {dry : Bool} {n : Nat}
    {j : Journal} : outcome (cleanModels dry folder) ⟨d, events⟩ = (.ok n, j) ↔
      d.isDirectory folder = .ok false ∧ n = 0 ∧ j = ⟨d, events⟩ := by
  rw [cleanModels, outcome_bind, outcome_ask]
  cases h : d.isDirectory folder with
  | error r => simp
  | ok b =>
    cases b with
    | true => exact absurd h hq
    | false => simp [eq_comm]

theorem cleanModels_ok_iff_of_not_directory (hq : d.isDirectory folder ≠ .ok true) {dry : Bool} {n : Nat} :
    (outcome (cleanModels dry folder) ⟨d, events⟩).1 = .ok n ↔ d.isDirectory folder = .ok false ∧ n = 0 := by
  constructor
  · intro h
    obtain ⟨hdir, hn, -⟩ := (cleanModels_eq_ok_iff_of_not_directory hq).1 (Prod.ext h rfl)
    exact ⟨hdir, hn⟩
  · rintro ⟨hdir, hn⟩
    exact congrArg Prod.fst ((cleanModels_eq_ok_iff_of_not_directory hq).2 ⟨hdir, hn, rfl⟩)

theorem cleanOutput_ok_iff {dry : Bool} {c n : Nat} {j j' : Journal}
    (hc : outcome (cleanContext dry context) j = (.ok c, j')) :
    (outcome (cleanOutput dry folder context) j).1 = .ok n ↔
      ∃ b, (outcome (cleanModels dry folder) j').1 = .ok b ∧ n = c + b := by
  rw [cleanOutput, outcome_bind, hc]
  dsimp only
  rw [outcome_bind]
  rcases outcome (cleanModels dry folder) j' with ⟨_ | b, _⟩
  · simp
  · simp [eq_comm]

theorem cleanOutput_ne_ok {dry : Bool} {f : Failure} {j : Journal}
    (hc : (outcome (cleanContext dry context) j).1 = .error f) (n : Nat) :
    (outcome (cleanOutput dry folder context) j).1 ≠ .ok n := by
  rw [cleanOutput, outcome_bind]
  generalize outcome (cleanContext dry context) j = r at hc ⊢
  rcases r with ⟨_ | _, _⟩
  · nofun
  · cases hc

theorem isDirectory_withoutFiles (hl : d.LinkFree) (ls : List Place) (p : Path) :
    (d.withoutFiles ls).isDirectory p = d.isDirectory p :=
  hl.isDirectory_congr (hl.without _) rfl (directory_withoutFiles d ls) p

theorem undercut_withoutFiles_iff (h : d.FolderAt folder m) (ls : List Place) :
    Undercut (d.withoutFiles ls) folder ↔ Undercut d folder := by
  have hf := h.withoutFiles ls
  have hs : (d.withoutFiles ls).start folder = d.start folder := rfl
  simp only [Undercut, hf.locate, h.locate, Except.ok.injEq, exists_eq_left', directoriesIn_withoutFiles, hs]

theorem contextBelow_eq (h : d.FolderAt folder m) (context : Option Path) : contextBelow d folder context =
    (contextPlaces d context).filter fun l => (d.placesBelow m).contains l := by
  simp only [contextBelow, h.locate]

theorem total_eq (h : d.FolderAt folder m) (context : Option Path) : d.total m =
    (d.withoutFiles (contextPlaces d context)).total m + recounted d folder context := by
  rw [recounted, contextBelow_eq h]
  exact total_withoutFiles h.sound (nodup_contextPlaces d context) (fun _ => file_of_mem_contextPlaces) m

theorem allFit_iff (h : d.FolderAt folder m) (context : Option Path) : AllFit folder m (d.placesBelow m) ↔
    AllFit folder m ((d.withoutFiles (contextPlaces d context)).placesBelow m) ∧
      ¬ Overlong d folder context := by
  have ho : ¬ Overlong d folder context ↔ AllFit folder m (contextBelow d folder context) := by
    simp [Overlong, h.locate]
  rw [ho, contextBelow_eq h]
  constructor
  · intro hfits
    exact ⟨allFit_withoutFiles hfits _, fun l hl => hfits l (List.contains_iff_mem.1 (List.mem_filter.1 hl).2)⟩
  · rintro ⟨hfits, hc⟩ l hl
    by_cases hlc : l ∈ contextPlaces d context
    · exact hc l (List.mem_filter.2 ⟨hlc, List.contains_iff_mem.2 hl⟩)
    · apply hfits l
      rw [withoutFiles, placesBelow_without]
      exact List.mem_filter.2 ⟨hl, by simp [hlc]⟩

theorem not_undercut_of_not_directory (hs : d.Sound) (hq : d.isDirectory folder ≠ .ok true) :
    ¬ Undercut d folder := by
  rintro ⟨m, hm, l, hl, _⟩
  have hb := (mem_directoriesIn.1 ((List.dropLast_sublist _).subset hl)).1
  exact hq (isDirectory_iff.2 ⟨m, hm, hb.directory hs⟩)

theorem contextBelow_of_not_directory (hs : d.Sound) (hq : d.isDirectory folder ≠ .ok true)
    (context : Option Path) : contextBelow d folder context = [] := by
  unfold contextBelow
  split
  · next m hm =>
    rw [List.filter_eq_nil_iff]
    intro l _ hl
    have hb := mem_placesBelow_iff_below.1 (List.contains_iff_mem.1 hl)
    exact hq (isDirectory_iff.2 ⟨m, hm, hb.directory hs⟩)
  · rfl

/-- How the result of a dry run tells what is freed in earnest. -/
structure Predicts (d : Disk) (folder : Path) (context : Option Path) (dry real : Except Failure Nat) : Prop where
  count : ∀ n k, dry = .ok n → real = .ok k → n = k + recounted d folder context
  real_ok : ∀ n, dry = .ok n → ((∃ k, real = .ok k) ↔ ¬ Undercut d folder)
  dry_ok : ∀ k, real = .ok k → ((∃ n, dry = .ok n) ↔ ¬ Overlong d folder context)

theorem predicts_of_folderAt (h : d.FolderAt folder m) (context : Option Path) (events events' : List Event) :
    Predicts d folder context (outcome (cleanModels true folder) ⟨d, events⟩).1
      (outcome (cleanModels false folder) ⟨d.withoutFiles (contextPlaces d context), events'⟩).1 := by
  have h' := h.withoutFiles (contextPlaces d context)
  have hdry : ∀ n, (outcome (cleanModels true folder) ⟨d, events⟩).1 = .ok n ↔ _ :=
    fun n => cleanModels_dry_ok_iff h
  have hreal : ∀ n, (outcome (cleanModels false folder) ⟨_, events'⟩).1 = .ok n ↔ _ :=
    fun n => cleanModels_ok_iff h'
  simp only [undercut_withoutFiles_iff h, allFit_iff h context, total_eq h context] at hdry hreal
  constructor <;> simp only [hdry, hreal]
  case count =>
    rintro n k ⟨_, rfl⟩ ⟨_, rfl, _⟩
    rfl
  case real_ok =>
    rintro n ⟨⟨hfits, _⟩, _⟩
    constructor
    · rintro ⟨_, _, _, hu⟩
      exact hu
    · exact fun hu => ⟨_, hfits, rfl, hu⟩
  case dry_ok =>
    rintro k ⟨hfits, _⟩
    constructor
    · rintro ⟨_, ⟨_, hno⟩, _⟩
      exact hno
    · exact fun hno => ⟨_, ⟨hfits, hno⟩, rfl⟩

theorem predicts_of_not_directory (hd : d.Sound) (hl : d.LinkFree) (hq : d.isDirectory folder ≠ .ok true)
    (context : Option Path) (events events' : List Event) :
    Predicts d folder context (outcome (cleanModels true folder) ⟨d, events⟩).1
      (outcome (cleanModels false folder) ⟨d.withoutFiles (contextPlaces d context), events'⟩).1 := by
  have hq' : (d.withoutFiles (contextPlaces d context)).isDirectory folder ≠ .ok true := by
    rwa [isDirectory_withoutFiles hl]
  have hb := contextBelow_of_not_directory hd hq context
  have hr : recounted d folder context = 0 := by rw [recounted, hb]; rfl
  have hno : ¬ Overlong d folder context := by simp [Overlong, hb, AllFit]
  have hu := not_undercut_of_not_directory hd hq
  constructor <;> simp only [cleanModels_ok_iff_of_not_directory hq, cleanModels_ok_iff_of_not_directory hq',
    isDirectory_withoutFiles hl, hr, hno, hu, not_false_eq_true, iff_true]
  case count =>
    rintro n k ⟨_, rfl⟩ ⟨_, rfl⟩
    rfl
  case real_ok => exact fun n h => ⟨n, h⟩
  case dry_ok => exact fun k h => ⟨k, h⟩

theorem Predicts.add {dry real dry' real' : Except Failure Nat} {c : Nat} (h : Predicts d folder context dry real)
    (hdry : ∀ n, dry' = .ok n ↔ ∃ b, dry = .ok b ∧ n = c + b)
    (hreal : ∀ k, real' = .ok k ↔ ∃ b, real = .ok b ∧ k = c + b) : Predicts d folder context dry' real' := by
  constructor <;> simp only [hdry, hreal]
  case count =>
    rintro n k ⟨b, hb, rfl⟩ ⟨b', hb', rfl⟩
    rw [h.count b b' hb hb', Nat.add_assoc]
  case real_ok =>
    rintro n ⟨b, hb, _⟩
    rw [← h.real_ok b hb, exists_comm]
    simp
  case dry_ok =>
    rintro k ⟨b, hb, _⟩
    rw [← h.dry_ok b hb, exists_comm]
    simp

/-- The context is in the folder of the models, next to a model in a directory of its own. -/
def nestedDisk : Disk where
  home := ["w"]
  entries := [(["w"], .directory), (["w", "m"], .directory), (["w", "m", "c"], .file "abc".toUTF8),
    (["w", "m", "s"], .directory), (["w", "m", "s", "t"], .file "t".toUTF8)]

theorem nestedDisk_sound : nestedDisk.Sound := by
  apply sound_of_entries
  · decide
  · decide
  · simp [nestedDisk, IsEntryName]
  · simp [nestedDisk]
  · rfl

theorem nestedDisk_linkFree : nestedDisk.LinkFree := by
  apply linkFree_of_entries
  simp [nestedDisk]

end Cleaning
end EntityGen
