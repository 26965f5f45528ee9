import EntityGen.Proofs.Generation.Containment
import EntityGen.Proofs.Generation.Stale

/-! How cleaning takes away what a run left. -/

namespace EntityGen

namespace Path

/-- A text that names one entry of a folder. -/
def IsComponent (s : String) : Prop := '/' ∉ s.toList ∧ s ≠ "." ∧ s ≠ ".."

instance (s : String) : Decidable (IsComponent s) := inferInstanceAs (Decidable (_ ∧ _))

/-- A path that only leads down from where it starts. -/
structure Descends (p : Path) : Prop where
  relative : p.isAbsolute = false
  dotless : ".." ∉ p.names

theorem descends_ofText {s : String} (h : '/' ∉ s.toList) (hn : s ≠ "..") : (ofText s).Descends where
  relative := by
    have hslashes : s.toList.takeWhile (· = '/') = [] := by
      rw [List.takeWhile_eq_nil_iff]
      intro hpos hslash
      exact h (of_decide_eq_true hslash ▸ List.getElem_mem hpos)
    simp [ofText, isAbsolute, leadingSlashes, hslashes]
  dotless := by
    have hparts : s.toList.splitOn '/' = [s.toList] := by
      apply List.splitOnP_eq_singleton
      intro ch hch
      rw [beq_eq_false_iff_ne]
      rintro rfl
      exact h hch
    intro hmem
    simp only [ofText, namesOf, hparts, List.mem_map, List.mem_filter, List.mem_singleton] at hmem
    obtain ⟨_, ⟨rfl, _⟩, hs⟩ := hmem
    rw [String.ofList_toList] at hs
    exact hn hs

theorem Descends.join {p q : Path} (hp : p.Descends) (hq : q.Descends) : (p.join q).Descends where
  relative := by rw [isAbsolute_join, hp.relative, hq.relative]; rfl
  dotless := by
    rw [join_of_not_isAbsolute hq.relative]
    simp [below, hp.dotless, hq.dotless]

end Path

namespace Generation

open Disk

variable {s : Setting} {c r : Config} {folder p : Path} {d d₁ d' : Disk} {calls : List Call} {rs : List Report}
  {events : List Event} {sm : Summary} {j : Journal} {o : Output} {l : Place}

theorem descends_innerPath {db : Database} {name : String}
    (hsub : ∀ sub, given db.subfolder = some sub → Path.IsComponent sub) (hname : Path.IsComponent name) :
    (innerPath db name).Descends := by
  have hfile : (Path.ofText (Model.fileName name)).Descends := by
    apply Path.descends_ofText
    · simpa [Model.fileName] using hname.1
    · intro h
      have hend := congrArg (fun t => t.toList.getLast?) h
      simp [Model.fileName] at hend
  unfold innerPath
  split
  · next sub h => exact (Path.descends_ofText (hsub sub h).1 (hsub sub h).2.2).join hfile
  · exact hfile

/-- A disk with what was generated can be cleaned: no path through the folder of the models is too long but that of
the context's file, and that one is not if the context was not written. -/
structure Clearable (c : Config) (folder : Path) (d : Disk) : Prop where
  contextAnswers : c.createContext = false → Cleaning.ContextAnswers d c.contextFile
  fits : ∀ l, d.Below (d.placeOf folder) l → l ∉ Cleaning.contextPlaces d c.contextFile →
    Fits folder (l.drop (d.placeOf folder).length)

theorem mem_paths_summary_iff {bytes : Nat} :
    p ∈ (summary s c rs bytes).modelPaths ++ (summary s c rs bytes).contextPath.toList ↔
      ∃ o ∈ outputs s c rs, o.path = p := by
  have hcontext : (summary s c rs bytes).contextPath.toList = (contextOutput c (artifacts s c rs)).map (·.path) := by
    rw [summary]
    rcases contextOutput_eq_or c (artifacts s c rs) with h | ⟨file, _, h⟩ <;> simp [h]
  rw [hcontext, ← List.mem_map, outputs, List.map_append, List.map_map]
  rfl

namespace Phases

variable (h : Phases s c folder calls rs d d₁ d') (hd : d.Sound) (hl : d.LinkFree)

include h hd hl

theorem locate_of_mem_outputs (ho : o ∈ outputs s c rs) :
    d'.locate true o.path = .ok (d'.placeOf o.path) ∧ (d'.file? (d'.placeOf o.path)).isSome := by
  obtain ⟨l, last, hloc, _, hread⟩ := Output.read_of_forM_save (h.loses hd hl).sound h.written ho
  obtain ⟨l', hloc', hf⟩ := Disk.read_eq_ok_iff.1 hread
  cases hloc.symm.trans hloc'
  cases (h.linkFree hd hl).locate_eq_placeOf hloc
  exact ⟨hloc, by rw [hf]; rfl⟩

theorem sweepable_iff_clearable (hn : ".." ∉ folder.names) :
    Cleaning.Sweepable d' folder c.contextFile ↔ Clearable c folder d' := by
  have hdir := h.isDirectory_after hd hl hn
  constructor
  · intro hs
    refine ⟨fun _ => hs.contextAnswers, fun l hb hother => hs.fits hdir l ?_⟩
    exact Cleaning.mem_placesBelow_rest_iff.2 ⟨hb, hother⟩
  · intro hc
    refine ⟨fun file hfile => ?_, ⟨true, hdir⟩, fun _ l hmem => ?_,
      Cleaning.not_undercut_of_notMem (h.linkFree hd hl) hn⟩
    · cases hcreate : c.createContext with
      | false => exact hc.contextAnswers hcreate file hfile
      | true =>
        -- A context that was written is there.
        obtain ⟨hloc, hf⟩ := h.locate_of_mem_outputs hd hl (context_mem_outputs hcreate hfile)
        obtain ⟨content, hf⟩ := Option.isSome_iff_exists.1 hf
        exact ⟨true, isFile_iff.2 ⟨_, content, hloc, file?_eq_some_iff.1 hf⟩⟩
    · obtain ⟨hb, hother⟩ := Cleaning.mem_placesBelow_rest_iff.1 hmem
      exact hc.fits l hb hother

/-- All that was written is taken away, the models because they are below the folder. -/
theorem cleanable_of_mem_outputs (hm : c.modelsFolder = some folder) (hn : ".." ∉ folder.names)
    (hinner : ∀ e ∈ entities s c rs, ∀ db ∈ c.databases, (innerPath db e.name).Descends) (ho : o ∈ outputs s c rs) :
    Cleaning.Cleanable d' folder c.contextFile (d'.placeOf o.path) := by
  rw [Cleaning.cleanable_iff (h.linkFree hd hl)]
  rcases List.mem_append.1 ho with hmodel | hcontext
  · obtain ⟨e, he, rfl⟩ := List.mem_map.1 hmodel
    obtain ⟨db, hdb, hpath⟩ := path_of_mem_entities hm h.told he
    have hin := hinner e he db hdb
    have hplaced := (placed_innerPath d' folder db e.name).contained hin.relative hin.dotless
    rw [← hpath] at hplaced
    exact .inr ⟨h.isDirectory_after hd hl hn, hplaced⟩
  · obtain ⟨hloc, hf⟩ := h.locate_of_mem_outputs hd hl ho
    rcases contextOutput_eq_or c (artifacts s c rs) with hnone | ⟨file, hfile, hone⟩
    · rw [hnone] at hcontext
      cases hcontext
    · rw [hone, List.mem_singleton] at hcontext
      subst hcontext
      exact .inl (Cleaning.mem_contextPlaces_iff.2 ⟨file, hfile, hloc, hf⟩)

end Phases

theorem isComponent_single (hf : c.filters = {}) (bytes : Nat) :
    ∀ a ∈ (summary singleSetting c singleReports bytes).artifacts, Path.IsComponent a.typeName := by
  intro a (ha : a ∈ artifacts singleSetting c singleReports)
  rw [artifacts_single hf, List.mem_singleton] at ha
  subst ha
  decide

theorem clearable_renewing (h : outcome (run singleSetting renewing) ⟨Disk.fresh ["w"], []⟩ = (.ok sm, j)) :
    Clearable completedRenewing ⟨0, ["m"]⟩ j.disk :=
  ⟨fun hc => (nomatch hc), fun _ hb _ => fits_renewing h hb⟩

def longName (n : Nat) : String := String.ofList (List.replicate n 'c')

theorem utf8ByteSize_longName (n : Nat) : (longName n).utf8ByteSize = n := by
  induction n with
  | zero => rfl
  | succ n ih =>
    rw [longName] at ih
    simp only [longName, List.replicate_succ, String.ofList_cons, String.utf8ByteSize_append, ih]
    exact Nat.add_comm 1 n

theorem longName_ne_dots {n : Nat} (hn : n ≠ 2) : longName n ≠ ".." := by
  intro h
  have hsize := congrArg String.utf8ByteSize h
  rw [utf8ByteSize_longName] at hsize
  exact hn hsize

/-- Whether the file of a context that is not written is there can be asked only if its name is not too long. -/
theorem isFile_longName (hd : d.Sound) (hl : d.LinkFree) (hparent : d.isDirectory ⟨0, []⟩ = .ok true) {n : Nat}
    (hn : nameLimit < n) : d.isFile ⟨0, [longName n]⟩ = .error .nameTooLong := by
  have hnul : Path.hasNul ⟨0, [longName n]⟩ = false := by simp [Path.hasNul, longName]
  have hlong : ¬ IsProper ⟨0, [longName n]⟩ := by
    intro h
    have hdots : longName n ≠ ".." := longName_ne_dots (Nat.ne_of_gt (Nat.lt_trans (by decide) hn))
    have hname := h.2.2 (longName n) List.mem_cons_self hdots
    rw [utf8ByteSize_longName] at hname
    exact Nat.not_le.2 hn hname
  have hloc : d.locate true ⟨0, [longName n]⟩ = _ := locate_eq_of_parent hd hl hparent
  rw [hnul, if_neg Bool.false_ne_true, if_neg hlong] at hloc
  exact test_eq_error_iff.2 ⟨rfl, hloc⟩

/-- The context is not written, and its name is as long as one likes. -/
def unwritten (n : Nat) : Config where
  modelsFolder := some ⟨0, ["m"]⟩
  contextFile := some ⟨0, [longName n]⟩
  «namespace» := some "N"
  createContext := false
  databases := [⟨"D", none, {}⟩]

def completedUnwritten (n : Nat) : Config := { unwritten n with
  modelsNamespace := some "N"
  contextNamespace := some "N"
  contextName := some "MyORMKustoDbContext"
  contextFolder := some ⟨0, []⟩ }

theorem run_unwritten (n : Nat) :
    ∃ sm j, outcome (run singleSetting (unwritten n)) ⟨Disk.fresh ["w"], []⟩ = (.ok sm, j) := by
  obtain ⟨text, ho⟩ := outputs_single (c := completedUnwritten n) rfl
  rw [contextOutput_of_no_context rfl] at ho
  refine exists_run (r := completedUnwritten n) (n := 0) rfl rfl ?_ (survey_single rfl rfl) ?_
  · cbv
  · rw [ho]
    cbv

end Generation
end EntityGen
