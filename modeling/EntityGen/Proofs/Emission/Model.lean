import EntityGen.Emission.Model
import EntityGen.Proofs.Emission.SourceFile
import EntityGen.Proofs.Outcome

/-! The file of a model tells what it was made of. -/

namespace EntityGen

open Text

namespace TypeMap

variable {m : TypeMap} {remote : String}

/-- The names that a type of a column can be replaced with, each on one line. -/
structure IsOneLine (m : TypeMap) : Prop where
  aliases : ∀ a ∈ m.aliases, OneLine a.2
  nullableMark : OneLine m.nullableMark

theorem isOneLine_default : ({} : TypeMap).IsOneLine where
  aliases := by decide
  nullableMark := by decide

theorem oneLine_dropStart (start : String) (h : OneLine remote) : OneLine (dropStart start remote) := by
  unfold dropStart
  split
  · intro c hc
    rw [String.toList_ofList] at hc
    exact h c (List.mem_of_mem_drop hc)
  · exact h

theorem IsOneLine.plainType (hm : m.IsOneLine) (h : OneLine remote) : OneLine (m.plainType remote) := by
  rw [TypeMap.plainType]
  have hname := oneLine_dropStart m.namespaceStart h
  generalize dropStart m.namespaceStart remote = name at hname
  cases hfind : m.aliases.find? (·.1 = name) with
  | none => exact hname
  | some a => exact hm.aliases a (List.mem_of_find?_eq_some hfind)

theorem IsOneLine.columnType (hm : m.IsOneLine) (h : OneLine remote) (nullable : Bool) :
    OneLine (m.columnType remote nullable) := by
  rw [TypeMap.columnType]
  split
  · exact hm.plainType h
  · exact oneLine_append.2 ⟨hm.plainType h, hm.nullableMark⟩

end TypeMap

namespace Model

variable {m : TypeMap} {f : FileFrame} {type name : String} {columns : List Column}

/-- What the file of a model says. -/
structure Content where
  nullable : Bool
  directives : List String
  «namespace» : String
  fileScoped : Bool
  name : String
  /-- The types and the names of the properties. -/
  properties : List (String × String)
  deriving DecidableEq

namespace Content

variable {c : Content}

def file (c : Content) : FileContent where
  nullable := c.nullable
  directives := c.directives
  «namespace» := c.namespace
  fileScoped := c.fileScoped
  declaration :=
    ["public partial class " ++ c.name, "\x7b"] ++ c.properties.map (fun p => property p.1 p.2) ++ ["\x7d"]

end Content

/-- The type and the name of a property, read off its line. The last blank stands between them. -/
def readProperty? (line : String) : Option (String × String) := do
  let inner ← between? "    public virtual " " \x7b get; set; \x7d" line
  let (type, name) ← cutLast? ' ' inner.toList
  some (String.ofList type, String.ofList name)

/-- The name of a class and its properties. -/
def readClass? : List String → Option (String × List (String × String))
  | header :: _ :: members => do
    some (← between? "public partial class " "" header, ← members.dropLast.mapM readProperty?)
  | _ => none

/-- What the file of a model says, read off its lines. -/
def read? (ls : List String) : Option Content := do
  let file ← FileContent.read? ls
  let (name, properties) ← readClass? file.declaration
  some ⟨file.nullable, file.directives, file.namespace, file.fileScoped, name, properties⟩

theorem readProperty?_property (h : ' ' ∉ name.toList) : readProperty? (property type name) = some (type, name) := by
  have hline : property type name = "    public virtual " ++ (type ++ " " ++ name) ++ " \x7b get; set; \x7d" := by
    unfold property
    simp only [String.append_assoc]
  have hinner : (type ++ " " ++ name).toList = type.toList ++ ' ' :: name.toList := by simp
  rw [hline]
  unfold readProperty?
  rw [between?_append, Option.bind_eq_bind, Option.bind_some, hinner, cutLast?_append h]
  simp

theorem readClass?_file {c : Content} (h : ∀ p ∈ c.properties, ' ' ∉ p.2.toList) :
    readClass? c.file.declaration = some (c.name, c.properties) := by
  have hproperties : (c.properties.map fun p => property p.1 p.2).mapM readProperty? = some c.properties :=
    mapM_eq_some_iff.2 <| List.forall₂_map_left_iff.2 <| List.forall₂_same.2 fun p hp =>
      readProperty?_property (h p hp)
  simp [Content.file, readClass?, between?_append_right, hproperties]

def content (m : TypeMap) (f : FileFrame) (name : String) (columns : List Column) : Content where
  nullable := f.nullable
  directives := FileFrame.directives f.usings f.namespace
  «namespace» := f.namespace
  fileScoped := f.fileScoped
  name := name
  properties := columns.map fun c => (m.columnType c.type f.nullable, c.name)

/-- Everything that the file of a model is made of stands on one line. -/
structure IsOneLine (f : FileFrame) (name : String) (columns : List Column) : Prop where
  frame : f.IsOneLine
  name : OneLine name
  columns : ∀ c ∈ columns, OneLine c.type ∧ OneLine c.name

/-- Everything that the file of a model is made of stands on one line, and no name of a column has a blank in it. -/
structure IsReadable (m : TypeMap) (f : FileFrame) (name : String) (columns : List Column) : Prop where
  types : m.IsOneLine
  frame : f.IsOneLine
  name : OneLine name
  columnTypes : ∀ c ∈ columns, OneLine c.type
  columnNames : ∀ c ∈ columns, OneLine c.name ∧ ' ' ∉ c.name.toList

theorem IsReadable.isOneLine (h : IsReadable m f name columns) : IsOneLine f name columns :=
  ⟨h.frame, h.name, fun c hc => ⟨h.columnTypes c hc, (h.columnNames c hc).1⟩⟩

theorem oneLine_property (htype : OneLine type) (hname : OneLine name) : OneLine (property type name) := by
  unfold property
  simp only [oneLine_append]
  exact ⟨⟨⟨⟨oneLine_literal, htype⟩, oneLine_literal⟩, hname⟩, oneLine_literal⟩

theorem IsOneLine.lines (h : IsOneLine f name columns) (hm : m.IsOneLine) :
    ∀ line ∈ ["public partial class " ++ name, "\x7b"] ++
      columns.map (fun c => property (m.columnType c.type f.nullable) c.name), OneLine line := by
  refine List.forall_mem_append.2 ⟨?_, List.forall_mem_map.2 fun c hc => ?_⟩
  · exact List.forall_mem_cons.2 ⟨oneLine_append.2 ⟨oneLine_literal, h.name⟩, List.forall_mem_singleton.2 oneLine_literal⟩
  · exact oneLine_property (hm.columnType (h.columns c hc).1 f.nullable) (h.columns c hc).2

theorem file_content (m : TypeMap) (f : FileFrame) (name : String) (columns : List Column) :
    (content m f name columns).file = f.content (["public partial class " ++ name, "\x7b"] ++
      columns.map (fun c => property (m.columnType c.type f.nullable) c.name) ++ ["\x7d"]) := by
  simp [content, Content.file, FileFrame.content, Function.comp_def]

theorem IsOneLine.text_eq (h : IsOneLine f name columns) (hm : m.IsOneLine) :
    text m f name columns = FileFrame.linesOf (content m f name columns).file.layout := by
  rw [file_content]
  exact FileFrame.text_linesOf f (h.lines hm)

theorem IsReadable.text_eq (h : IsReadable m f name columns) :
    text m f name columns = FileFrame.linesOf (content m f name columns).file.layout :=
  h.isOneLine.text_eq h.types

theorem IsReadable.read?_text (h : IsReadable m f name columns) :
    read? (linesIn (text m f name columns)) = some (content m f name columns) := by
  have hproperties : ∀ p ∈ (content m f name columns).properties, ' ' ∉ p.2.toList :=
    List.forall_mem_map.2 fun c hc => (h.columnNames c hc).2
  have hfile := FileFrame.read?_text h.frame (h.isOneLine.lines h.types)
  rw [← file_content] at hfile
  have hread : FileContent.read? (linesIn (text m f name columns)) = some (content m f name columns).file := hfile
  rw [read?, hread, Option.bind_eq_bind, Option.bind_some, readClass?_file hproperties]
  rfl

/-- What a model says can be read off the lines of its file, so two files are equal exactly if they say the same. -/
theorem text_tells (h : IsReadable m f name columns) :
    read? (linesIn (text m f name columns)) = some (content m f name columns) ∧
      ∀ {m' f' name' columns'}, IsReadable m' f' name' columns' →
        (text m f name columns = text m' f' name' columns' ↔
          content m f name columns = content m' f' name' columns') := by
  refine ⟨h.read?_text, fun h' => ⟨fun heq => ?_, fun heq => ?_⟩⟩
  · have hread := h.read?_text
    rw [heq, h'.read?_text] at hread
    exact (Option.some.inj hread).symm
  · rw [h.text_eq, h'.text_eq, heq]

theorem text_tells_repeated_column :
    let f : FileFrame := ⟨"N", ["System", "", "using A;", "N"], true, false⟩
    IsReadable {} f "T" [⟨"a", "System.Int32"⟩, ⟨"a", "System.Int32"⟩] ∧ IsReadable {} f "T" [⟨"a", "System.Int32"⟩] ∧
      read? (linesIn (text {} f "T" [⟨"a", "System.Int32"⟩, ⟨"a", "System.Int32"⟩])) =
        some ⟨true, ["using System;", "using A;"], "N", false, "T", [("Int32?", "a"), ("Int32?", "a")]⟩ ∧
      text {} f "T" [⟨"a", "System.Int32"⟩, ⟨"a", "System.Int32"⟩] ≠ text {} f "T" [⟨"a", "System.Int32"⟩] := by
  have htwice : IsReadable {} ⟨"N", ["System", "", "using A;", "N"], true, false⟩ "T"
      [⟨"a", "System.Int32"⟩, ⟨"a", "System.Int32"⟩] :=
    ⟨TypeMap.isOneLine_default, ⟨by decide, by decide⟩, by decide, by decide, by decide⟩
  have honce : IsReadable {} ⟨"N", ["System", "", "using A;", "N"], true, false⟩ "T" [⟨"a", "System.Int32"⟩] :=
    ⟨TypeMap.isOneLine_default, ⟨by decide, by decide⟩, by decide, by decide, by decide⟩
  obtain ⟨hread, hequal⟩ := text_tells htwice
  exact ⟨htwice, honce, hread, mt (hequal honce).1 (by decide)⟩

end Model
end EntityGen
