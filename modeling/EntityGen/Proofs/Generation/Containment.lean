import EntityGen.Proofs.Disk.Passage
import EntityGen.Proofs.Generation.Contents
import EntityGen.Proofs.Text.Cutting

/-! Which models lie below the folder of all models. -/

namespace EntityGen

namespace Disk

/-- What names come to when each one that two dots follow is taken back: how far up they lead, and what they
enter from there. -/
structure Reduced where
  up : Nat
  down : List String
  deriving DecidableEq

namespace Reduced

def enter (r : Reduced) (name : String) : Reduced :=
  if name = ".." then
    if r.down = [] then { r with up := r.up + 1 } else { r with down := r.down.dropLast }
  else { r with down := r.down ++ [name] }

/-- Up and then down from a place. There is nothing above the root. -/
def leadFrom (r : Reduced) (here : Place) : Place := here.take (here.length - r.up) ++ r.down

theorem step_leadFrom (r : Reduced) (here : Place) (name : String) :
    step (r.leadFrom here) name = (r.enter name).leadFrom here := by
  unfold step enter leadFrom
  by_cases hn : name = ".."
  · rw [if_pos hn, if_pos hn]
    by_cases hd : r.down = []
    · rw [if_pos hd, hd, List.append_nil, List.append_nil, List.dropLast_eq_take, List.take_take,
        List.length_take]
      congr 1
      dsimp only
      omega
    · rw [if_neg hd, List.dropLast_append_of_ne_nil hd]
  · rw [if_neg hn, if_neg hn, List.append_assoc]

end Reduced

def reduce (names : List String) : Reduced := names.foldl Reduced.enter ⟨0, []⟩

/-- A place is strictly below a folder when dots are taken for what they say. -/
def LiesBelow (d : Disk) (folder p : Path) : Prop :=
  d.placeOf folder <+: d.placeOf p ∧ d.placeOf p ≠ d.placeOf folder

variable {d : Disk} {folder p : Path} {names : List String} {l : Place}

theorem foldl_step_leadFrom (names : List String) (r : Reduced) (here : Place) :
    names.foldl step (r.leadFrom here) = (names.foldl Reduced.enter r).leadFrom here := by
  induction names generalizing r with
  | nil => rfl
  | cons name rest ih => rw [List.foldl_cons, List.foldl_cons, r.step_leadFrom, ih]

theorem foldl_step (names : List String) (here : Place) :
    names.foldl step here = (reduce names).leadFrom here := by
  have h := foldl_step_leadFrom names ⟨0, []⟩ here
  rwa [Reduced.leadFrom, Nat.sub_zero, List.take_length, List.append_nil] at h

theorem foldl_enter_of_notMem (h : ".." ∉ names) (r : Reduced) :
    names.foldl Reduced.enter r = ⟨r.up, r.down ++ names⟩ := by
  induction names generalizing r with
  | nil => rw [List.append_nil, List.foldl_nil]
  | cons name rest ih =>
    rw [List.mem_cons, not_or] at h
    obtain ⟨hn, hrest⟩ := h
    rw [List.foldl_cons, ih hrest, Reduced.enter, if_neg (Ne.symm hn), List.append_assoc]
    rfl

theorem reduce_of_notMem (h : ".." ∉ names) : reduce names = ⟨0, names⟩ := foldl_enter_of_notMem h _

theorem placeOf_below (d : Disk) (folder : Path) (names : List String) :
    d.placeOf (folder.below names) = (reduce names).leadFrom (d.placeOf folder) := by
  rw [placeOf_eq, Path.below, List.foldl_append, ← foldl_step]
  rfl

example : (Disk.fresh ["w"]).placeOf ⟨0, ["m", "..", "T.cs"]⟩ = ["w", "T.cs"] := by decide

theorem placeOf_of_isAbsolute (h : p.isAbsolute = true) : d.placeOf p = (reduce p.names).down := by
  rw [placeOf_eq, start, if_pos h, foldl_step, Reduced.leadFrom, List.take_nil, List.nil_append]

theorem liesBelow_iff : d.LiesBelow folder p ↔ ∃ rest, rest ≠ [] ∧ d.placeOf p = d.placeOf folder ++ rest := by
  constructor
  · rintro ⟨⟨rest, hr⟩, hne⟩
    refine ⟨rest, ?_, hr.symm⟩
    rintro rfl
    exact hne (by rw [← hr, List.append_nil])
  · rintro ⟨rest, hr, h⟩
    rw [LiesBelow, h]
    exact ⟨List.prefix_append _ _, by simpa using hr⟩

/-- Names that lead up come back below a folder only by the names of the folder itself. -/
theorem liesBelow_below_iff : d.LiesBelow folder (folder.below names) ↔ ∃ rest, rest ≠ [] ∧
    (reduce names).down =
      (d.placeOf folder).drop ((d.placeOf folder).length - (reduce names).up) ++ rest := by
  rw [liesBelow_iff, placeOf_below, Reduced.leadFrom]
  generalize d.placeOf folder = here
  -- What the way keeps of the folder cancels.
  have hcancel : ∀ rest, here.take (here.length - (reduce names).up) ++ (reduce names).down = here ++ rest ↔
      (reduce names).down = here.drop (here.length - (reduce names).up) ++ rest := by
    intro rest
    nth_rewrite 3 [← List.take_append_drop (here.length - (reduce names).up) here]
    rw [List.append_assoc, List.append_cancel_left_eq]
  simp only [hcancel]

theorem liesBelow_below (hn : names ≠ []) (h : ".." ∉ names) : d.LiesBelow folder (folder.below names) := by
  rw [liesBelow_iff, placeOf_below, reduce_of_notMem h]
  refine ⟨names, hn, ?_⟩
  rw [Reduced.leadFrom, Nat.sub_zero, List.take_length]

end Disk

namespace Generation

open Disk Run

variable {s : Setting} {c : Config} {d : Database} {folder f : Path} {name : String} {j j' : Journal}
  {sm : Summary}

/-- Where a model of a database goes, seen from the folder of all models. -/
def innerPath (d : Database) (name : String) : Path :=
  match given d.subfolder with
  | some s => (Path.ofText s).join (.ofText (Model.fileName name))
  | none => .ofText (Model.fileName name)

theorem modelPath_eq (hm : c.modelsFolder = some folder) (hf : c.folderOf d = .ok f) (name : String) :
    modelPath f name = folder.join (innerPath d name) := by
  rw [Config.folderOf, hm] at hf
  rw [modelPath, innerPath]
  cases hg : given d.subfolder with
  | none =>
    rw [hg] at hf
    cases hf
    rfl
  | some s =>
    rw [hg] at hf
    cases hf
    exact Path.join_assoc _ _ _

theorem path_of_mem_entities {before : List Call} {rs : List Report} {e : Entity} (hm : c.modelsFolder = some folder)
    (hs : survey s c before c.databases = .ok rs) (he : e ∈ entities s c rs) :
    ∃ d ∈ c.databases, e.path = folder.join (innerPath d e.name) := by
  obtain ⟨report, hreport, he⟩ := List.mem_flatMap.1 he
  refine ⟨report.database, ?_, ?_⟩
  · rw [← map_database_of_survey hs]
    exact List.mem_map_of_mem hreport
  · have hf : c.folderOf report.database = .ok e.folder := by
      rw [folder_of_mem_entities he]
      exact folderOf_of_survey hs report hreport
    rw [Entity.path, modelPath_eq hm hf]

theorem names_innerPath_ne_nil (d : Database) (name : String) : (innerPath d name).names ≠ [] := by
  have hfile : (Path.ofText (Model.fileName name)).names ≠ [] := by
    have hc : 'c' ∈ (Model.fileName name).toList := by simp [Model.fileName]
    exact Path.namesOf_ne_nil hc (by decide) (by decide)
  unfold innerPath
  split
  · unfold Path.join
    split
    · exact hfile
    · exact List.append_ne_nil_of_right_ne_nil _ hfile
  · exact hfile

/-- A model goes where its name and the folder of its database say, below the folder of all models or not. -/
structure Placed (disk : Disk) (folder inner p : Path) : Prop where
  path : p = folder.join inner
  absolute : inner.isAbsolute = true → (disk.LiesBelow folder p ↔ ∃ rest, rest ≠ [] ∧
    (reduce inner.names).down = disk.placeOf folder ++ rest)
  relative : inner.isAbsolute = false → (disk.LiesBelow folder p ↔ ∃ rest, rest ≠ [] ∧
    (reduce inner.names).down =
      (disk.placeOf folder).drop ((disk.placeOf folder).length - (reduce inner.names).up) ++ rest)
  contained : inner.isAbsolute = false → ".." ∉ inner.names → disk.LiesBelow folder p

theorem placed_innerPath (disk : Disk) (folder : Path) (d : Database) (name : String) :
    Placed disk folder (innerPath d name) (folder.join (innerPath d name)) where
  path := rfl
  absolute h := by rw [Path.join_of_isAbsolute h, liesBelow_iff, placeOf_of_isAbsolute h]
  relative h := by rw [Path.join_of_not_isAbsolute h, liesBelow_below_iff]
  contained h hdots := by
    rw [Path.join_of_not_isAbsolute h]
    exact liesBelow_below (names_innerPath_ne_nil d name) hdots

/-- Each model of a run goes where its name and the folder of its database say. It lies below the folder of
all models if no dots lead back, and otherwise only if they lead back into it. -/
theorem run_places_models (hrun : outcome (run s c) j = (.ok sm, j')) :
    ∃ r folder, c.complete = .ok r ∧ r.modelsFolder = some folder ∧
      List.Forall₂ (fun a p => ∃ d ∈ c.databases, Placed j.disk folder (innerPath d a.typeName) p)
        sm.artifacts sm.modelPaths := by
  obtain ⟨r, folder, hr, hm, h⟩ := run_eq_ok_iff.1 hrun
  obtain ⟨bytes, j₁, rs, d', _, hs, _, _, rfl, _⟩ := runCompleted_eq_ok_iff.1 h
  refine ⟨r, folder, hr, hm, ?_⟩
  rw [summary, artifacts, List.forall₂_map_left_iff, List.forall₂_map_right_iff, List.forall₂_same]
  intro e he
  obtain ⟨d, hd, hpath⟩ := path_of_mem_entities hm hs he
  rw [(Config.completes_of_complete hr).databases] at hd
  refine ⟨d, hd, ?_⟩
  rw [hpath]
  exact placed_innerPath j.disk folder d e.name

/-- One table leads out of the folder, and one leads out of it and back. -/
def leading : Config where
  modelsFolder := some ⟨0, ["m"]⟩
  contextFile := some ⟨0, ["c.cs"]⟩
  «namespace» := some "N"
  databases := [⟨"D", none, {}⟩]

def completedLeading : Config := { leading with
  modelsNamespace := some "N"
  contextNamespace := some "N"
  contextName := some "MyORMKustoDbContext"
  contextFolder := some ⟨0, []⟩ }

def leadingSetting : Setting where
  catalog := {
    tables := fun _ _ => .ok [⟨"../T", "a", "System.Int32"⟩, ⟨"../m/U", "b", "System.Guid"⟩]
    functions := fun _ _ => .ok []
    probe := fun _ _ _ _ => .ok [] }
  types := {}
  now := .first

def leadingReports : List Report :=
  [⟨⟨"D", none, {}⟩, ⟨0, ["m"]⟩, [⟨"../T", "a", "System.Int32"⟩, ⟨"../m/U", "b", "System.Guid"⟩], [], []⟩]

theorem entities_leading : entities leadingSetting completedLeading leadingReports =
    [⟨⟨0, ["m"]⟩, .ofTable "../T", [⟨"a", "System.Int32"⟩]⟩,
      ⟨⟨0, ["m"]⟩, .ofTable "../m/U", [⟨"b", "System.Guid"⟩]⟩] := by
  decide

theorem writeAll_leading : ∃ d', outcome (writeAll completedLeading
    (outputs leadingSetting completedLeading leadingReports)) (Disk.fresh ["w"]) = (.ok (), d') := by
  refine ⟨_, Prod.ext ?_ rfl⟩
  rw [outputs, entities_leading]
  simp only [List.map_cons, List.map_nil, contextOutput, completedLeading, leading, Option.toList_some,
    if_true, Entity.output, modelText]
  generalize contextText _ _ = context
  generalize Model.text _ _ _ _ = outer
  generalize Model.text _ _ _ _ = inner
  cbv

theorem run_places_models_leading : ∃ sm j,
    outcome (run leadingSetting leading) ⟨Disk.fresh ["w"], []⟩ = (.ok sm, j) ∧
    ∃ r folder, leading.complete = .ok r ∧ r.modelsFolder = some folder ∧
      List.Forall₂ (fun a p => ∃ d ∈ leading.databases,
        Placed (Disk.fresh ["w"]) folder (innerPath d a.typeName) p) sm.artifacts sm.modelPaths := by
  obtain ⟨d', hw⟩ := writeAll_leading
  have hrun : outcome (run leadingSetting leading) ⟨Disk.fresh ["w"], []⟩ = _ := outcome_run rfl rfl rfl hw
  exact ⟨_, _, hrun, run_places_models hrun⟩

end Generation
end EntityGen
