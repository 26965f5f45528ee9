import EntityGen.Cleaning
import EntityGen.Proofs.Disk.Loss
import EntityGen.Proofs.Run

/-! Cleaning takes nothing away but the file of the context and what is below the folder of the models. -/

namespace EntityGen.Cleaning

open Disk Run

/-- The entry of the context if it is a file or a link to one, and every place strictly below the directory
that the folder of the models leads to. -/
def Cleanable (d : Disk) (folder : Path) (context : Option Path) (l : Place) : Prop :=
  (∃ file, context = some file ∧ d.isFile file = .ok true ∧ d.locate false file = .ok l) ∨
    ∃ m, d.locate true folder = .ok m ∧ d.get? m = some .directory ∧ m <+: l ∧ l ≠ m

variable {given : Place → Prop} {I : Journal → Prop} {d : Disk} {dry : Bool} {folder p : Path}
  {context : Option Path} {events : List Event}

/-! What each part of cleaning preserves if its steps do. -/

theorem removeFile_preserves (hn : dry = true → ∀ size, Preserves I (note (.wouldRemove p size)))
    (ha : dry = false → ∀ fault, Preserves I (act fault (Action.removeFile p))) :
    Preserves I (removeFile dry p) := by
  refine (ask_preserves I _).bind fun b => ?_
  split
  · refine .bind (fun _ h => h) fun j => ?_
    cases dry with
    | true => exact (hn rfl _).bind fun _ => .pure _
    | false => exact (ha rfl _).bind fun _ => .pure _
  · exact .pure _

theorem removeFiles_preserves {ps : List Path} (h : ∀ p ∈ ps, Preserves I (removeFile dry p)) :
    Preserves I (removeFiles dry ps) := by
  induction ps with
  | nil => exact .pure _
  | cons p rest ih =>
    refine .bind (h p List.mem_cons_self) fun _ => ?_
    exact .bind (ih fun q hq => h q (List.mem_cons_of_mem p hq)) fun _ => .pure _

theorem prune_preserves (h : ∀ j ps, I j → directoriesBelow j.disk folder = .ok ps →
    ∀ p ∈ ps, Preserves I (pruneDirectory p)) : Preserves I (prune folder) := by
  refine (ask_preserves I _).bind fun b => ?_
  split
  · exact ask_bind_preserves fun j ps hj hps => Preserves.forM (h j ps hj hps) j hj
  · exact .pure _

theorem cleanModels_preserves (hf : ∀ j ps, I j → j.disk.pathsBelow folder = .ok ps →
    ∀ p ∈ ps, Preserves I (removeFile dry p)) (hp : dry = false → Preserves I (prune folder)) :
    Preserves I (cleanModels dry folder) := by
  refine (ask_preserves I _).bind fun b => ?_
  split
  · refine ask_bind_preserves fun j ps hj hps => ?_
    refine Preserves.bind (removeFiles_preserves (hf j ps hj hps)) (fun n => ?_) j hj
    cases dry with
    | true => exact .pure _
    | false => exact (hp rfl).bind fun _ => .pure _
  · exact .pure _

/-! Nothing but what is cleanable gets lost. -/

theorem removeFile_loses (hp : ∀ l, d.locate false p = .ok l → given l) :
    Preserves (fun j => d.Loses given j.disk) (removeFile dry p) :=
  removeFile_preserves (fun _ _ _ h => h) fun _ fault => act_preserves fault (Action.removeFile_loses hp)

theorem outcome_removeFile_of_not_isFile {j : Journal} (hf : j.disk.isFile p ≠ .ok true) :
    (outcome (removeFile dry p) j).2 = j := by
  simp only [removeFile, outcome_bind, outcome_ask]
  rcases h : j.disk.isFile p with r | (_ | _)
  · rfl
  · rfl
  · exact absurd h hf

theorem pruneDirectory_loses (hp : ∀ l, d.locate false p = .ok l → given l) :
    Preserves (fun j => d.Loses given j.disk) (pruneDirectory p) := by
  refine act_preserves _ (.bind (Action.isEmptyDirectory_preserves _ p) fun b => ?_)
  split
  · exact Action.removeDirectory_loses hp
  · exact .pure _

theorem mem_pathsBelow_of_directoriesBelow {ps : List Path} (h : directoriesBelow d folder = .ok ps)
    (hp : p ∈ ps) : ∃ qs, d.pathsBelow folder = .ok qs ∧ p ∈ qs := by
  simp only [directoriesBelow] at h
  cases hqs : d.pathsBelow folder with
  | error r => rw [hqs] at h; cases h
  | ok qs =>
    rw [hqs] at h
    cases hf : qs.filterM d.isDirectory with
    | error r => simp only [bind, Except.bind, hf] at h; cases h
    | ok found =>
      simp only [bind, Except.bind, hf] at h
      cases h
      obtain ⟨g, _, rfl⟩ := filterM_eq_ok_iff.1 hf
      exact ⟨qs, rfl, (List.mem_filter.1 (List.mem_mergeSort.1 hp)).1⟩

theorem prune_loses (hd : d.Sound) :
    Preserves (fun j => d.Loses (Cleanable d folder context) j.disk) (prune folder) := by
  apply prune_preserves
  intro j ps h hps p hp
  obtain ⟨qs, hqs, hp⟩ := mem_pathsBelow_of_directoriesBelow hps hp
  exact pruneDirectory_loses fun l hl => .inr (h.below hd hqs hp hl)

theorem cleanModels_loses (hd : d.Sound) :
    Preserves (fun j => d.Loses (Cleanable d folder context) j.disk) (cleanModels dry folder) := by
  apply cleanModels_preserves
  · intro j ps h hps p hp
    exact removeFile_loses fun l hl => .inr (h.below hd hps hp hl)
  · exact fun _ => prune_loses hd

theorem cleanContext_loses (hd : d.Sound) (events : List Event) :
    d.Loses (Cleanable d folder context) (outcome (cleanContext dry context) ⟨d, events⟩).2.disk := by
  cases context with
  | none => exact .refl hd
  | some file =>
    by_cases hf : d.isFile file = .ok true
    · exact removeFile_loses (fun l hl => .inl ⟨file, rfl, hf, hl⟩) _ (.refl hd)
    · rw [cleanContext, outcome_removeFile_of_not_isFile hf]
      exact .refl hd

theorem loses_cleanable (hd : d.Sound) (events : List Event) : d.Loses (Cleanable d folder context)
    (outcome (cleanOutput dry folder context) ⟨d, events⟩).2.disk := by
  refine Preserves.after (I := fun j : Journal => d.Loses (Cleanable d folder context) j.disk)
    (cleanContext_loses hd events) fun _ => ?_
  exact (cleanModels_loses hd).bind fun _ => .pure _

theorem cleanOutput_sound : Preserves (fun j => j.disk.Sound) (cleanOutput dry folder context) :=
  fun j hd => (loses_cleanable hd j.events).sound

/-! A dry run leaves the disk alone, and only a dry run tells anything. -/

theorem cleanOutput_preserves (hr : ∀ p, Preserves I (removeFile dry p))
    (hp : dry = false → ∀ p, Preserves I (pruneDirectory p)) :
    Preserves I (cleanOutput dry folder context) := by
  refine .bind ?_ fun _ => .bind ?_ fun _ => .pure _
  · cases context with
    | none => exact .pure _
    | some file => exact hr file
  · apply cleanModels_preserves
    · exact fun _ _ _ _ p _ => hr p
    · exact fun hdry => prune_preserves fun _ _ _ _ p _ => hp hdry p

theorem cleanOutput_dry : Preserves (fun j => j.disk = d) (cleanOutput true folder context) :=
  cleanOutput_preserves (fun _ => removeFile_preserves (fun _ _ _ h => h) nofun) nofun

theorem cleanOutput_silent : Preserves (fun j => j.events = events) (cleanOutput false folder context) :=
  cleanOutput_preserves (fun _ => removeFile_preserves nofun fun _ _ => act_silent _ _)
    fun _ _ => act_silent _ _

/-- Whether it succeeds or fails, cleaning makes no entry and changes none. It takes away only what is
cleanable, and nothing in a dry run. -/
theorem cleanOutput_loses (hd : d.Sound) (events : List Event) :
    let d' := (outcome (cleanOutput dry folder context) ⟨d, events⟩).2.disk
    d.Loses (Cleanable d folder context) d' ∧ (dry = true → d' = d) := by
  constructor
  · exact loses_cleanable hd events
  · rintro rfl
    exact cleanOutput_dry _ rfl

/-- The context is a link out of the folder, and there is a link in the folder too. -/
def linkedDisk : Disk where
  home := ["w"]
  entries := [(["w"], .directory), (["w", "c"], .link ⟨0, ["x", "f"]⟩), (["w", "m"], .directory),
    (["w", "m", "a"], .file "a".toUTF8), (["w", "m", "k"], .link ⟨0, ["..", "x"]⟩),
    (["w", "x"], .directory), (["w", "x", "f"], .file "f".toUTF8)]

theorem linkedDisk_sound : linkedDisk.Sound := by
  apply sound_of_entries
  · decide
  · decide
  · simp [linkedDisk, IsEntryName]
  · simp [linkedDisk, Path.hasNul]
  · rfl

theorem cleanOutput_loses_linkedDisk : linkedDisk.Sound ∧
    let d' := (outcome (cleanOutput false ⟨0, ["m"]⟩ (some ⟨0, ["c"]⟩)) ⟨linkedDisk, []⟩).2.disk
    linkedDisk.Loses (Cleanable linkedDisk ⟨0, ["m"]⟩ (some ⟨0, ["c"]⟩)) d' ∧
      (false = true → d' = linkedDisk) :=
  ⟨linkedDisk_sound, cleanOutput_loses linkedDisk_sound []⟩

end EntityGen.Cleaning
