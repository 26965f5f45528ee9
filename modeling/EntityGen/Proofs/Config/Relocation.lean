import EntityGen.Config.Completion
import EntityGen.Config.Read
import EntityGen.Proofs.Outcome
import EntityGen.Proofs.Text.Cutting

/-! Configurations whose relative paths start from another place. -/

namespace EntityGen

namespace Path

variable {p q : Path}

/-- The path with `base` in front, unless it is absolute. -/
def relocated (base p : Path) : Path := if p.isAbsolute then p else ⟨base.slashes, base.names ++ p.names⟩

theorem join_eq_relocated (base p : Path) : base.join p = base.relocated p := rfl

theorem join_relocated (base p q : Path) : (base.relocated p).join q = base.relocated (p.join q) := by
  rw [← join_eq_relocated, ← join_eq_relocated, join_assoc]

/-- The path is not the empty one. -/
def HasParts (p : Path) : Prop := p.isAbsolute = true ∨ p.names ≠ []

/-- The empty path is the one that has nothing above it to which `base` could come. -/
theorem HasParts.parent_relocated (h : p.HasParts) (base : Path) :
    (base.relocated p).parent = base.relocated p.parent := by
  have hparent : p.parent.isAbsolute = p.isAbsolute := rfl
  unfold relocated
  rw [hparent]
  split
  · rfl
  · next ha =>
    have hn : p.names ≠ [] := h.resolve_left ha
    simp [parent, List.dropLast_append_of_ne_nil hn]

theorem HasParts.join (h : q.HasParts) (p : Path) : (p.join q).HasParts := by
  cases ha : q.isAbsolute with
  | true => rwa [join_of_isAbsolute ha]
  | false =>
    have hn : q.names ≠ [] := h.resolve_left (by simp [ha])
    rw [join_of_not_isAbsolute ha]
    exact .inr (by simp [below, hn])

end Path

theorem readPath_some (field : String) (base : Path) (v : Value) :
    readPath field (some base) v = (readPath field none v).map (Option.map base.relocated) := by
  unfold readPath
  split
  · rfl
  · split <;> rfl

namespace Config

/-- The configuration with its relative paths starting from `base`. -/
def relocated (base : Path) (c : Config) : Config := { c with
  modelsFolder := c.modelsFolder.map base.relocated
  contextFile := c.contextFile.map base.relocated
  contextFolder := c.contextFolder.map base.relocated }

variable (base : Path) {c : Config}

theorem ofEntries_relocated (entries : List (Value × Value)) :
    ofEntries entries (some base) = (ofEntries entries none).map (relocated base) := by
  simp only [ofEntries, readPath_some, except_map_bind, except_bind_map]
  rfl

theorem contextFileOf_relocated (c : Config) (name : String) :
    (c.relocated base).contextFileOf name = (c.contextFileOf name).map base.relocated := by
  unfold contextFileOf relocated
  cases c.contextFile with
  | some file => rfl
  | none =>
    cases c.contextFolder with
    | some folder => exact congrArg some (Path.join_relocated base folder _)
    | none => rfl

/-- A file that is named after the context has its name. -/
theorem hasParts_contextFileOf (h : ∀ file ∈ c.contextFile, file.HasParts) (name : String) :
    ∀ file ∈ c.contextFileOf name, file.HasParts := by
  intro file hfile
  unfold contextFileOf at hfile
  split at hfile
  · next hc =>
    cases hfile
    exact h _ hc
  · cases hfile
    have hname : Path.namesOf (name ++ ".cs").toList ≠ [] :=
      Path.namesOf_ne_nil (x := 'c') (by simp) (by decide) (by decide)
    exact Path.HasParts.join (.inr hname) _
  · cases hfile

theorem checkContext_map (contextNamespace : Option String) (file : Option Path) (f : Path → Path) :
    checkContext contextNamespace (file.map f) = checkContext contextNamespace file := by
  cases contextNamespace <;> cases file <;> rfl

theorem parent_or_relocated {file : Option Path} (h : ∀ p ∈ file, p.HasParts) (folder : Option Path) :
    ((file.map base.relocated).map Path.parent).or (folder.map base.relocated) =
      ((file.map Path.parent).or folder).map base.relocated := by
  cases file with
  | none => rfl
  | some p => exact congrArg some ((h p rfl).parent_relocated base)

theorem complete_relocated (h : ∀ file ∈ c.contextFile, file.HasParts) :
    (c.relocated base).complete = c.complete.map (relocated base) := by
  have hfolder := parent_or_relocated base
    (hasParts_contextFileOf h ((given c.contextName).getD usualContextName)) c.contextFolder
  have hnone : (c.relocated base).modelsFolder.isNone = c.modelsFolder.isNone := Option.isNone_map
  have hname : (c.relocated base).contextName = c.contextName := rfl
  have hnamespace : (c.relocated base).namespace = c.namespace := rfl
  have hmodels : (c.relocated base).modelsNamespace = c.modelsNamespace := rfl
  have hcontext : (c.relocated base).contextNamespace = c.contextNamespace := rfl
  have hcreate : (c.relocated base).createContext = c.createContext := rfl
  have hf : (c.relocated base).contextFolder = c.contextFolder.map base.relocated := rfl
  simp only [complete, contextFileOf_relocated, checkContext_map, hnone, hname, hnamespace, hmodels, hcontext,
    hcreate, hf, hfolder]
  cases c.modelsFolder.isNone with
  | true => rfl
  | false =>
    cases firstGiven c.modelsNamespace c.namespace with
    | none => rfl
    | some models =>
      cases c.createContext with
      | false => rfl
      | true =>
        cases checkContext (given ((c.contextNamespace.filter (· ≠ "")).or c.namespace))
            (c.contextFileOf ((given c.contextName).getD usualContextName)) with
        | error f => rfl
        | ok _ => rfl

theorem folderOf_relocated (c : Config) (d : Database) :
    (c.relocated base).folderOf d = (c.folderOf d).map base.relocated := by
  unfold folderOf relocated
  cases c.modelsFolder with
  | none => rfl
  | some folder =>
    cases given d.subfolder with
    | none => rfl
    | some s => exact congrArg Except.ok (Path.join_relocated base folder _)

/-- Reading the same settings from another place gives the same configuration with its relative paths starting
from there, or the same failure. So does completing it, unless the file of the context is the empty path, and so
do the folders of its databases. -/
theorem ofEntries_relocates (entries : List (Value × Value)) (base : Path) :
    ofEntries entries (some base) = (ofEntries entries none).map (relocated base) ∧
    ∀ c : Config,
      ((∀ file ∈ c.contextFile, file.HasParts) →
        (c.relocated base).complete = c.complete.map (relocated base)) ∧
      ∀ d, (c.relocated base).folderOf d = (c.folderOf d).map base.relocated :=
  ⟨ofEntries_relocated base entries, fun c => ⟨complete_relocated base, folderOf_relocated base c⟩⟩

/-- Some paths are relative and some are not. -/
def scatteredEntries : List (Value × Value) :=
  [(.text "models_folder", .text "./m//x"), (.text "context_file", .text "../C.cs"),
    (.text "context_folder", .text "/abs"), (.text "namespace", .text "N"), (.text "databases", .list [.text "D"])]

def scattered : Config where
  modelsFolder := some ⟨0, ["m", "x"]⟩
  contextFile := some ⟨0, ["..", "C.cs"]⟩
  contextFolder := some ⟨1, ["abs"]⟩
  «namespace» := some "N"
  databases := [⟨"D", none, {}⟩]

theorem ofEntries_relocates_scattered :
    let base : Path := ⟨1, ["w"]⟩
    ofEntries scatteredEntries (some base) = .ok (scattered.relocated base) ∧
    (∀ file ∈ scattered.contextFile, file.HasParts) ∧
    (scattered.relocated base).complete = scattered.complete.map (relocated base) ∧
    (scattered.relocated base).folderOf ⟨"D", some "s", {}⟩ = .ok ⟨1, ["w", "m", "x", "s"]⟩ := by
  intro base
  have hread : ofEntries scatteredEntries none = .ok scattered := rfl
  have hparts : ∀ file ∈ scattered.contextFile, file.HasParts := by
    rintro file ⟨⟩
    exact .inr (List.cons_ne_nil _ _)
  obtain ⟨hentries, hall⟩ := ofEntries_relocates scatteredEntries base
  obtain ⟨hcomplete, hfolder⟩ := hall scattered
  rw [hread] at hentries
  exact ⟨hentries, hparts, hcomplete hparts, (hfolder _).trans rfl⟩

/-- There is nothing above the empty path, but there is above the place that it starts from. -/
example :
    let c : Config := { scattered with contextFile := some ⟨0, []⟩ }
    (c.relocated ⟨1, ["w"]⟩).complete.toOption.bind (·.contextFolder) = some ⟨1, []⟩ ∧
      (c.complete.map (relocated ⟨1, ["w"]⟩)).toOption.bind (·.contextFolder) = some ⟨1, ["w"]⟩ := by decide

end Config
end EntityGen
