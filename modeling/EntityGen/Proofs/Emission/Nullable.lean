import EntityGen.Emission.Artifact
import EntityGen.Proofs.Emission.Model

/-! What nullable mode changes: one line of the header, and the mark behind strings. -/

namespace EntityGen

open Text

namespace TypeMap

/-- What a type of a column becomes in nullable mode. -/
def marked (type : String) : String := if type = "string" then "string?" else type

theorem columnType_nullable (remote : String) :
    ({} : TypeMap).columnType remote true = marked (({} : TypeMap).columnType remote false) := by
  unfold columnType
  generalize ({} : TypeMap).plainType remote = type
  by_cases h : type = "string"
  · rw [h]
    rfl
  · -- what has a mark already is not the bare string
    have hmark : type ++ "?" ≠ "string" := by
      intro heq
      have hlast := congrArg (·.toList.getLast?) heq
      revert hlast
      simp
    simp [marked, h, hmark]

theorem parameterType_nullable (type : String) : ({} : TypeMap).parameterType type true =
    ({} : TypeMap).parameterType type false ++ if Scalar.ofName type = .string then "?" else "" := by
  unfold parameterType
  by_cases h : Scalar.ofName type = .string
  · simp [h]
  · simp [h]

end TypeMap

namespace FileContent

variable {ls : List String}

theorem indented_of_ne_empty (h : ∀ line ∈ ls, line ≠ "") : indented ls = ls.map ("    " ++ ·) := by
  have hne : ∀ line ∈ ls.map String.toList, line ≠ [] :=
    List.forall_mem_map.2 fun line hline => mt String.toList_eq_nil_iff.1 (h line hline)
  rw [indented, indentLines_of_ne_nil hne, List.map_map, List.map_map]
  refine List.map_congr_left fun line _ => String.toList_inj.1 ?_
  simp [margin]

end FileContent

namespace FileFrame

/-- A text is made of these lines, each of them ended by a line feed. -/
structure HasLines (text : String) (ls : List String) : Prop where
  joined : text = linesOf ls
  cut : linesIn text = ls

theorem hasLines_linesOf {ls : List String} (h : ∀ line ∈ ls, OneLine line) : HasLines (linesOf ls) ls :=
  ⟨rfl, linesIn_linesOf h⟩

end FileFrame

namespace Model

variable {f : FileFrame} {name : String} {columns : List Column}

namespace Content

/-- What stands in front of each line of the class. -/
def margin (c : Content) : String := if c.fileScoped then "" else "    "

/-- The lines between the header and the properties. -/
def above (c : Content) : List String :=
  c.directives ++ "" ::
    (if c.fileScoped then ["namespace " ++ c.namespace ++ ";", ""] else ["namespace " ++ c.namespace, "\x7b"]) ++
      [c.margin ++ ("public partial class " ++ c.name), c.margin ++ "\x7b"]

/-- The lines behind the properties. -/
def below (c : Content) : List String := (c.margin ++ "\x7d") :: if c.fileScoped then [] else ["\x7d"]

theorem ne_empty_of_mem_declaration (c : Content) : ∀ line ∈ c.file.declaration, line ≠ "" := by
  have hclass : "public partial class " ++ c.name ≠ "" := fun h =>
    absurd (String.append_eq_empty_iff.1 h).1 (by decide)
  have hproperty : ∀ p : String × String, property p.1 p.2 ≠ "" := fun p h =>
    absurd (String.append_eq_empty_iff.1 h).2 (by decide)
  refine List.forall_mem_append.2 ⟨List.forall_mem_append.2 ⟨?_, List.forall_mem_map.2 fun p _ => hproperty p⟩, ?_⟩
  · exact List.forall_mem_cons.2 ⟨hclass, List.forall_mem_singleton.2 (by decide)⟩
  · exact List.forall_mem_singleton.2 (by decide)

theorem layout_file (c : Content) : c.file.layout =
    ["// <auto-generated> This file has been auto generated by kusto_ormgen. </auto-generated>",
      "#pragma warning disable IDE1006 // Naming Styles"] ++ (if c.nullable then ["#nullable enable"] else []) ++
      (c.above ++ c.properties.map (fun p => c.margin ++ property p.1 p.2) ++ c.below) := by
  have hindented := FileContent.indented_of_ne_empty c.ne_empty_of_mem_declaration
  rw [FileContent.layout, FileContent.scope, hindented]
  cases hf : c.fileScoped <;> simp [file, above, below, margin, hf]

end Content

theorem IsOneLine.hasLines {m : TypeMap} (h : IsOneLine f name columns) (hm : m.IsOneLine) :
    FileFrame.HasLines (text m f name columns) (content m f name columns).file.layout := by
  have hlines := (FileFrame.isOneLine_content h.frame (FileFrame.oneLine_of_mem_closed (h.lines hm))).layout
  rw [← file_content] at hlines
  rw [h.text_eq hm]
  exact FileFrame.hasLines_linesOf hlines

theorem map_properties (m : TypeMap) (f : FileFrame) (name : String) (columns : List Column) (margin : String) :
    (content m f name columns).properties.map (fun p => margin ++ property p.1 p.2) =
      columns.map fun c => margin ++ property (m.columnType c.type f.nullable) c.name := by
  rw [content, List.map_map]
  rfl

end Model

open FileFrame (HasLines)
open Model (property)

/-- Nullable mode adds one line to a model and marks the properties that are bare strings; of an artifact of a function it
marks the parameters that are strings. All else is the same. -/
theorem nullable_marks :
    (∀ (f : FileFrame) (name : String) (columns : List Column), Model.IsOneLine f name columns →
      ∃ first margin above below,
        HasLines (Model.text {} { f with nullable := false } name columns)
          ([first, "#pragma warning disable IDE1006 // Naming Styles"] ++
            (above ++ columns.map (fun c => margin ++ property (({} : TypeMap).columnType c.type false) c.name) ++
              below)) ∧
        HasLines (Model.text {} { f with nullable := true } name columns)
          ([first, "#pragma warning disable IDE1006 // Naming Styles"] ++ ["#nullable enable"] ++
            (above ++ columns.map (fun c =>
              margin ++ property (TypeMap.marked (({} : TypeMap).columnType c.type false)) c.name) ++ below))) ∧
    ∀ (function : String) (ps : List Parameter),
      (Artifact.ofFunction {} true function ps).typeName = (Artifact.ofFunction {} false function ps).typeName ∧
      (Artifact.ofFunction {} true function ps).query = (Artifact.ofFunction {} false function ps).query ∧
      (Artifact.ofFunction {} false function ps).declaration = function ++ "(" ++ ", ".intercalate
        (ps.map fun p => ({} : TypeMap).parameterType p.type false ++ " " ++ p.name) ++ ")" ∧
      (Artifact.ofFunction {} true function ps).declaration = function ++ "(" ++ ", ".intercalate
        (ps.map fun p => ({} : TypeMap).parameterType p.type false ++
          (if Scalar.ofName p.type = .string then "?" else "") ++ " " ++ p.name) ++ ")" := by
  constructor
  · intro f name columns h
    have hmode : ∀ nullable, Model.IsOneLine { f with nullable := nullable } name columns := fun _ =>
      ⟨⟨h.frame.namespace, h.frame.usings⟩, h.name, h.columns⟩
    have hoff := (hmode false).hasLines TypeMap.isOneLine_default
    have hon := (hmode true).hasLines TypeMap.isOneLine_default
    rw [Model.Content.layout_file, Model.map_properties] at hoff hon
    simp only [TypeMap.columnType_nullable] at hon
    exact ⟨_, _, _, _, hoff, hon⟩
  · intro function ps
    refine ⟨rfl, rfl, rfl, ?_⟩
    simp only [← TypeMap.parameterType_nullable]
    rfl

theorem nullable_marks_block :
    let columns : List Column := [⟨"a", "System.String"⟩, ⟨"b", "System.Int32"⟩]
    Model.IsOneLine ⟨"N", ["System"], false, false⟩ "T" columns ∧ ∃ first margin above below,
      HasLines (Model.text {} ⟨"N", ["System"], false, false⟩ "T" columns)
        ([first, "#pragma warning disable IDE1006 // Naming Styles"] ++
          (above ++ [margin ++ property "string" "a", margin ++ property "Int32?" "b"] ++ below)) ∧
      HasLines (Model.text {} ⟨"N", ["System"], true, false⟩ "T" columns)
        ([first, "#pragma warning disable IDE1006 // Naming Styles"] ++ ["#nullable enable"] ++
          (above ++ [margin ++ property "string?" "a", margin ++ property "Int32?" "b"] ++ below)) := by
  have h : Model.IsOneLine ⟨"N", ["System"], false, false⟩ "T" [⟨"a", "System.String"⟩, ⟨"b", "System.Int32"⟩] :=
    ⟨⟨by decide, by decide⟩, by decide, by decide⟩
  have hstring : ({} : TypeMap).columnType "System.String" false = "string" := by decide
  have hint : ({} : TypeMap).columnType "System.Int32" false = "Int32?" := by decide
  have hmarked : TypeMap.marked "string" = "string?" ∧ TypeMap.marked "Int32?" = "Int32?" := by decide
  have htexts := nullable_marks.1 _ _ _ h
  simp only [List.map_cons, List.map_nil, hstring, hint, hmarked.1, hmarked.2] at htexts
  exact ⟨h, htexts⟩

end EntityGen
