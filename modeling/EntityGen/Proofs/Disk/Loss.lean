import EntityGen.Proofs.Disk.Action
import EntityGen.Proofs.Disk.Locate

/-! What removing files and directories does to a disk. -/

namespace EntityGen

namespace Disk

/-- Nothing came to be or changed, and only places that are given were emptied. -/
structure Loses (given : Place → Prop) (d d' : Disk) : Prop where
  sound : d'.Sound
  home : d'.home = d.home
  get? : ∀ l, d'.get? l = d.get? l ∨ (d'.get? l = none ∧ given l)

namespace Loses

variable {given : Place → Prop} {d d' : Disk} {l : Place} {e : Entry} {p : Path}

theorem refl (h : d.Sound) : d.Loses given d := ⟨h, rfl, fun _ => .inl rfl⟩

theorem get?_eq (h : d.Loses given d') (he : d'.get? l = some e) : d.get? l = some e := by
  rcases h.get? l with hl | ⟨hl, _⟩
  · exact hl ▸ he
  · rw [hl] at he; cases he

theorem linkFree (h : d.Loses given d') (hl : d.LinkFree) : d'.LinkFree := fun l t ht => hl l t (h.get?_eq ht)

theorem keeps (h : d.Loses given d') : d'.Keeps d := ⟨h.home.symm, fun _ => h.get?_eq, fun _ _ => h.get?_eq⟩

/-- What a path still leads to it has always led to. -/
theorem locate (h : d.Loses given d') {followLast : Bool} (hl : d'.locate followLast p = .ok l)
    (he : d'.get? l = some e) : d.locate followLast p = .ok l := by
  rw [locate_eq_ok_iff] at hl ⊢
  obtain ⟨hn, ht, hl⟩ := hl
  have hs : d'.start p = d.start p := by simp [start, h.home]
  refine ⟨hn, ht, hs ▸ hl.mono h.keeps (fun _ => by simp [h.get?_eq he]) fun t htl => ?_⟩
  rw [he, ← h.get?_eq he, htl]

theorem exists_directory (h : d.Loses given d') (hp : d'.isDirectory p = .ok true) :
    ∃ l, d.locate true p = .ok l ∧ d.get? l = some .directory := by
  obtain ⟨l, hl, hd⟩ := isDirectory_iff.1 hp
  exact ⟨l, h.locate hl hd, h.get?_eq hd⟩

/-- A name that is too long is met on the same way where more is there. -/
theorem walkWith_nameTooLong (h : d.Loses given d') {followLast : Bool}
    {jump jump' : Place → List String → Except Refusal Place}
    (hj : ∀ here names, jump' here names = .error .nameTooLong → jump here names = .error .nameTooLong)
    {here : Place} {names : List String} (hw : walkWith d' followLast jump' here names = .error .nameTooLong) :
    walkWith d followLast jump here names = .error .nameTooLong := by
  induction names generalizing here with
  | nil =>
    simp only [walkWith] at hw
    split at hw <;> cases hw
  | cons name rest ih =>
    simp only [walkWith] at hw
    split at hw
    · next hd =>
      simp only [walkWith, h.get?_eq hd]
      split at hw
      · next hn =>
        rw [if_pos hn]
        exact ih hw
      · next hn =>
        rw [if_neg hn]
        split at hw
        · next hs => rw [if_pos hs]
        · next hs =>
          rw [if_neg hs]
          split at hw
          · next t ht =>
            simp only [h.get?_eq ht]
            split at hw
            · cases hw
            · next hr =>
              rw [if_neg hr]
              exact hj _ _ hw
          · next e hl he =>
            cases e with
            | link t => exact absurd rfl (hl t)
            | directory | file =>
              simp only [h.get?_eq he]
              exact ih hw
          · split at hw <;> cases hw
    · cases hw
    · cases hw

theorem walk_nameTooLong (h : d.Loses given d') {followLast : Bool} {n : Nat} {here : Place}
    {names : List String} (hw : d'.walk followLast n here names = .error .nameTooLong) :
    d.walk followLast n here names = .error .nameTooLong := by
  induction n generalizing here names with
  | zero =>
    rw [walk] at hw ⊢
    exact h.walkWith_nameTooLong (fun _ _ he => by cases he) hw
  | succ n ih =>
    rw [walk] at hw ⊢
    exact h.walkWith_nameTooLong (fun _ _ => ih) hw

theorem locate_nameTooLong (h : d.Loses given d') {followLast : Bool}
    (hp : d'.locate followLast p = .error (.refusal .nameTooLong)) :
    d.locate followLast p = .error (.refusal .nameTooLong) := by
  unfold Disk.locate at hp ⊢
  split
  · next hn =>
    rw [if_pos hn] at hp
    cases hp
  · next hn =>
    rw [if_neg hn] at hp
    split
    · rfl
    · next ht =>
      rw [if_neg ht] at hp
      cases hw : d'.walk followLast linkLimit (d'.start p) p.names with
      | ok l =>
        rw [hw] at hp
        cases hp
      | error r =>
        rw [hw] at hp
        cases hp
        have hs : d'.start p = d.start p := by simp [start, h.home]
        rw [hs] at hw
        rw [h.walk_nameTooLong hw]
        rfl

/-- A question that had an answer has one when things are lost. -/
theorem exists_test (h : d.Loses given d') {q : Entry → Bool} (ha : ∃ b, d.test q p = .ok b) :
    ∃ b, d'.test q p = .ok b :=
  exists_test_iff.2 fun hp => exists_test_iff.1 ha (h.locate_nameTooLong hp)

theorem erase (h : d.Loses given d') (hg : given l)
    (hc : ∀ name, d'.get? (l ++ [name]) = none) : d.Loses given (d'.erase l) := by
  by_cases hl : l = []
  · rw [hl, h.sound.erase_root]
    exact h
  · refine ⟨h.sound.erase hc, h.home, fun m => ?_⟩
    by_cases hm : m = l
    · rw [hm]
      exact .inr ⟨get?_erase_self hl, hg⟩
    · rw [get?_erase_of_ne hm]
      exact h.get? m

/-- Everything found below a folder was below it all the time. -/
theorem below (h : d.Loses given d') (hd : d.Sound) {folder : Path} {ps : List Path}
    (hps : d'.pathsBelow folder = .ok ps) (hp : p ∈ ps) (hl : d.locate false p = .ok l) :
    ∃ m, d.locate true folder = .ok m ∧ d.get? m = some .directory ∧ m <+: l ∧ l ≠ m := by
  obtain ⟨m, rest, e, hm, hmd, hr, he, rfl⟩ := mem_pathsBelow hps hp
  have hm := h.locate hm hmd
  have hmd := h.get?_eq hmd
  rw [hd.locate_below false hm hmd hr (h.get?_eq he) nofun] at hl
  split at hl
  · cases hl
    exact ⟨m, hm, hmd, List.prefix_append m rest, by simpa using hr⟩
  · cases hl

end Loses

end Disk

namespace Action

open Disk

variable {given : Place → Prop} {d d' : Disk} {p : Path}

theorem removeFile_loses (hp : ∀ l, d.locate false p = .ok l → given l) :
    Preserves (d.Loses given ·) (removeFile p) := by
  intro d' h
  rw [outcome_removeFile]
  split
  · exact h
  · next l hl =>
    split
    · exact h
    · exact h
    · next e hd he =>
      refine h.erase (hp l (h.locate hl he)) (h.sound.get?_child ?_)
      rw [he]
      exact fun hc => hd (Option.some.inj hc)

theorem removeDirectory_loses (hp : ∀ l, d.locate false p = .ok l → given l) :
    Preserves (d.Loses given ·) (removeDirectory p) := by
  intro d' h
  rw [outcome_removeDirectory]
  split
  · exact h
  · next l hl =>
    split
    · exact h
    · next he =>
      split
      · exact h
      · next hc =>
        refine h.erase (hp l (h.locate hl he)) fun name => ?_
        rw [← Option.not_isSome_iff_eq_none]
        exact fun hs => hc (hasChildren_iff.2 ⟨name, hs⟩)
    · exact h

theorem isEmptyDirectory_preserves (I : Disk → Prop) (p : Path) : Preserves I (isEmptyDirectory p) := by
  intro d h
  rw [outcome_isEmptyDirectory]
  split <;> exact h

end Action
end EntityGen
