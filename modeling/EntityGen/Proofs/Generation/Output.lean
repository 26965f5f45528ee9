import EntityGen.Proofs.Disk.Passage

/-! Texts that are written to files one after the other. -/

namespace EntityGen

theorem Disk.read_eq_ok_iff {d : Disk} {p : Path} {content : ByteArray} : d.read p = .ok content ↔
    ∃ l, d.locate true p = .ok l ∧ d.file? l = some content := by
  simp only [read, entry, bind_eq_ok_iff, file?_eq_some_iff]
  constructor
  · rintro ⟨e, ⟨l, hl, he⟩, h⟩
    refine ⟨l, hl, ?_⟩
    cases hg : d.get? l with
    | none =>
      rw [hg] at he
      cases he
    | some e' =>
      rw [hg] at he
      cases he
      cases e with
      | file c =>
        cases h
        rfl
      | directory => cases h
      | link t => cases h
  · rintro ⟨l, hl, he⟩
    exact ⟨.file content, ⟨l, hl, by rw [he]⟩, rfl⟩

structure Output where
  path : Path
  text : String
  deriving DecidableEq

namespace Output

/-- Writes a text and makes the folders above it. -/
def save (o : Output) : Action Unit := do
  Action.ensureDirectories o.path.parent
  Action.writeFile o.path o.text.toUTF8

/-- Whether an output goes to the file at a place. -/
def reaches (d : Disk) (l : Place) (o : Output) : Bool :=
  match d.locate true o.path with
  | .ok m => decide (m = l)
  | .error _ => false

/-- The last one of some outputs that goes to a place. -/
def last? (d : Disk) (l : Place) (os : List Output) : Option Output := (os.filter (reaches d l)).getLast?

variable {d d' : Disk} {l m : Place} {o : Output} {os : List Output}

theorem reaches_iff : o.reaches d l = true ↔ d.locate true o.path = .ok l := by
  unfold reaches
  cases d.locate true o.path <;> simp

theorem reaches_eq_decide (ho : d.locate true o.path = .ok m) : o.reaches d l = decide (l = m) := by
  rw [Bool.eq_iff_iff, reaches_iff, ho, Except.ok.injEq, decide_eq_true_eq, eq_comm]

theorem last?_cons (d : Disk) (l : Place) (o : Output) (os : List Output) : last? d l (o :: os) =
    if o.reaches d l then some ((last? d l os).getD o) else last? d l os := by
  unfold last?
  split
  · next h => rw [List.filter_cons_of_pos h, List.getLast?_cons]
  · next h => rw [List.filter_cons_of_neg h]

theorem last?_append_singleton (hl : d.locate true o.path = .ok l) : last? d l (os ++ [o]) = some o := by
  rw [last?, List.filter_append, List.filter_cons_of_pos (reaches_iff.2 hl), List.filter_nil,
    List.getLast?_concat]

theorem mem_of_last? (h : last? d l os = some o) : o ∈ os ∧ d.locate true o.path = .ok l := by
  have hm := List.mem_of_getLast? h
  exact ⟨(List.mem_filter.1 hm).1, reaches_iff.1 (List.mem_filter.1 hm).2⟩

theorem last?_isSome (ho : o ∈ os) (hl : d.locate true o.path = .ok l) : (last? d l os).isSome := by
  rw [last?, List.getLast?_isSome]
  exact List.ne_nil_of_mem (List.mem_filter.2 ⟨ho, reaches_iff.2 hl⟩)

theorem save_grows (h : d.Sound) (hs : outcome o.save d = (.ok (), d')) : d.Grows d' ∧
    ∃ l, d'.locate true o.path = .ok l ∧ d'.file? l = some o.text.toUTF8 ∧
      ∀ m, m ≠ l → d'.file? m = d.file? m := by
  obtain ⟨_, d₁, h₁, hw⟩ := outcome_bind_eq_ok_iff.1 hs
  have ha := Action.adds_of_ensureDirectories h h₁
  obtain ⟨l, hl, hg, hf, hr⟩ := Action.writeFile_grows ha.sound hw
  refine ⟨ha.toGrows.trans hg, l, hg.locate hl, hf, fun m hm => ?_⟩
  rw [hr m hm, ha.same]

/-- What fails to be written may leave directories behind, and nothing else. -/
theorem save_error {t : Trouble} (hs : outcome o.save d = (.error t, d')) :
    (outcome (Action.ensureDirectories o.path.parent) d).2 = d' := by
  rw [save, outcome_bind] at hs
  rcases h : outcome (Action.ensureDirectories o.path.parent) d with ⟨_ | _, d₁⟩
  · rw [h] at hs
    cases hs
    rfl
  · rw [h] at hs
    dsimp only at hs ⊢
    rw [Action.outcome_writeFile] at hs
    split at hs
    · cases hs
      rfl
    · split at hs
      · cases hs
        rfl
      · cases hs

theorem save_error_adds {t : Trouble} (h : d.Sound) (hs : outcome o.save d = (.error t, d')) : d.Adds d' := by
  rw [← save_error hs]
  exact Action.ensureDirectories_adds o.path.parent d (.refl h)

theorem save_error_spares {t : Trouble} (hl : d.LinkFree) (hs : outcome o.save d = (.error t, d'))
    (hp : ¬ d.LeadsThrough o.path.parent l) : d.Spares l d' := by
  rw [← save_error hs]
  exact Action.ensureDirectories_spares hp d (.refl hl)

theorem save_spares (hp : ¬ d.LeadsThrough o.path l) : Preserves (d.Spares l ·) o.save :=
  (Action.ensureDirectories_spares fun ha => hp (Disk.leadsThrough_of_parent ha)).bind
    fun _ => Action.writeFile_spares hp

/-- Every file holds what was written to it last, and all others hold what they held before. -/
theorem forM_save (h : d.Sound) (hs : outcome (os.forM save) d = (.ok (), d')) : d.Grows d' ∧
    (∀ o ∈ os, ∃ l, d'.locate true o.path = .ok l) ∧
      ∀ l, d'.file? l = match last? d' l os with
        | some o => some o.text.toUTF8
        | none => d.file? l := by
  -- The disk is part of the induction: what is written first counts only where nothing comes later.
  induction os generalizing d with
  | nil =>
    cases hs
    exact ⟨.refl h, by simp, fun l => rfl⟩
  | cons o os ih =>
    obtain ⟨_, d₁, h₁, hs⟩ := outcome_bind_eq_ok_iff.1 hs
    obtain ⟨hg₁, m, hm, hf, hr⟩ := save_grows h h₁
    obtain ⟨hg, hos, hl⟩ := ih hg₁.sound hs
    have hm' := hg.locate hm
    refine ⟨hg₁.trans hg, List.forall_mem_cons.2 ⟨⟨m, hm'⟩, hos⟩, fun l => ?_⟩
    rw [hl l, last?_cons, reaches_eq_decide hm']
    by_cases hlm : l = m
    · cases hn : last? d' l os with
      | some o' => simp [hlm]
      | none => simp [hlm, hf]
    · cases hn : last? d' l os with
      | some o' => simp [hlm]
      | none => simp [hlm, hr l hlm]

/-- What is read at the path of an output is what was last written to the same file. -/
theorem read_of_forM_save (h : d.Sound) (hs : outcome (os.forM save) d = (.ok (), d')) (ho : o ∈ os) :
    ∃ l last, d'.locate true o.path = .ok l ∧ last? d' l os = some last ∧
      d'.read o.path = .ok last.text.toUTF8 := by
  obtain ⟨_, hos, hf⟩ := forM_save h hs
  obtain ⟨l, hl⟩ := hos o ho
  obtain ⟨last, hlast⟩ := Option.isSome_iff_exists.1 (last?_isSome ho hl)
  refine ⟨l, last, hl, hlast, Disk.read_eq_ok_iff.2 ⟨l, hl, ?_⟩⟩
  rw [hf l, hlast]

/-- What is written last is what is read. -/
theorem read_of_forM_save_append (h : d.Sound) (hs : outcome ((os ++ [o]).forM save) d = (.ok (), d')) :
    d'.read o.path = .ok o.text.toUTF8 := by
  obtain ⟨l, last, hl, hlast, hread⟩ := read_of_forM_save h hs (List.mem_append_right os (List.mem_singleton_self o))
  rw [last?_append_singleton hl] at hlast
  cases hlast
  exact hread

theorem file?_of_forM_save (h : d.Sound) (hs : outcome (os.forM save) d = (.ok (), d'))
    (hl : ∀ o ∈ os, d'.locate true o.path ≠ .ok l) : d'.file? l = d.file? l := by
  obtain ⟨_, _, hf⟩ := forM_save h hs
  rw [hf l]
  cases hlast : last? d' l os with
  | none => rfl
  | some last => exact absurd (mem_of_last? hlast).2 (hl last (mem_of_last? hlast).1)

theorem last?_of_grows (hg : d.Grows d') (ho : ∀ o ∈ os, ∃ m, d.locate true o.path = .ok m) (l : Place) :
    last? d' l os = last? d l os := by
  rw [last?, last?]
  congr 1
  apply List.filter_congr
  intro o hmem
  obtain ⟨m, hm⟩ := ho o hmem
  rw [reaches_eq_decide hm, reaches_eq_decide (hg.locate hm)]

/-- Directories that come to be later change nothing of what is read. -/
theorem read_of_forM_save_of_adds {d₁ : Disk} (h : d.Sound) (hs : outcome (os.forM save) d = (.ok (), d₁))
    (ha : d₁.Adds d') (ho : o ∈ os) : ∃ l last, d'.locate true o.path = .ok l ∧ last? d' l os = some last ∧
      d'.read o.path = .ok last.text.toUTF8 := by
  obtain ⟨_, hos, _⟩ := forM_save h hs
  obtain ⟨l, last, hl, hlast, hread⟩ := read_of_forM_save h hs ho
  refine ⟨l, last, ha.locate hl, ?_, Disk.read_eq_ok_iff.2 ⟨l, ha.locate hl, ?_⟩⟩
  · rw [last?_of_grows ha.toGrows hos, hlast]
  · obtain ⟨_, hl', hf⟩ := Disk.read_eq_ok_iff.1 hread
    rw [hl] at hl'
    cases hl'
    rw [ha.same, hf]

end Output
end EntityGen
