import EntityGen.Emission.SourceFile
import EntityGen.Proofs.Text.Lines

/-! A generated file can be read line by line. -/

namespace EntityGen

open Text

/-- What a generated file says, its declaration line by line. -/
structure FileContent where
  nullable : Bool
  directives : List String
  «namespace» : String
  fileScoped : Bool
  declaration : List String
  deriving DecidableEq

namespace FileContent

variable {c : FileContent}

def indented (ls : List String) : List String := (indentLines (ls.map String.toList)).map String.ofList

def unindented (line : String) : String := String.ofList (line.toList.drop margin.length)

/-- The lines of the namespace and of what it holds for. -/
def scope (c : FileContent) : List String :=
  if c.fileScoped then ("namespace " ++ c.namespace ++ ";") :: "" :: c.declaration
  else ("namespace " ++ c.namespace) :: "\x7b" :: (indented c.declaration ++ ["\x7d"])

/-- The lines of the file. -/
def layout (c : FileContent) : List String :=
  ["// <auto-generated> This file has been auto generated by kusto_ormgen. </auto-generated>",
    "#pragma warning disable IDE1006 // Naming Styles"] ++
  (if c.nullable then ["#nullable enable"] else []) ++ c.directives ++ "" :: c.scope

/-- The line behind the one that names the namespace tells whether there is a block. -/
def readScope? (nullable : Bool) (directives : List String) : List String → Option FileContent
  | first :: second :: rest =>
    if second = "" then
      (between? "namespace " ";" first).map (⟨nullable, directives, ·, true, rest⟩)
    else
      (between? "namespace " "" first).map (⟨nullable, directives, ·, false, rest.dropLast.map unindented⟩)
  | _ => none

/-- The nullable flag and what stands behind it. -/
def readFlag (ls : List String) : Bool × List String :=
  if ls.head? = some "#nullable enable" then (true, ls.tail) else (false, ls)

/-- What a file says, read off its lines. The using directives end at the first blank line. -/
def read? (ls : List String) : Option FileContent := do
  let (nullable, rest) := readFlag (ls.drop 2)
  let (directives, scope) ← cut? "" rest
  readScope? nullable directives scope

theorem map_unindented_indented (ls : List String) : (indented ls).map unindented = ls := by
  have hdrop : unindented ∘ String.ofList = String.ofList ∘ List.drop margin.length := by
    funext line
    simp [unindented]
  rw [indented, List.map_map, hdrop, ← List.map_map, map_drop_indentLines, List.map_map]
  exact List.map_id'' (fun line => String.ofList_toList) ls

theorem readScope?_scope (c : FileContent) : readScope? c.nullable c.directives c.scope = some c := by
  obtain ⟨nullable, directives, name, fileScoped, declaration⟩ := c
  cases fileScoped with
  | true => simp [scope, readScope?, between?_append]
  | false => simp [scope, readScope?, between?_append_right, map_unindented_indented]

/-- No using directive can be mistaken for what stands in front of the directives or behind them. -/
def Separate (c : FileContent) : Prop := "" ∉ c.directives ∧ "#nullable enable" ∉ c.directives

theorem head?_append_ne {ds : List String} (h : "#nullable enable" ∉ ds) (rest : List String) :
    (ds ++ "" :: rest).head? ≠ some "#nullable enable" := by
  cases ds with
  | nil => simp
  | cons d ds =>
    rintro ⟨⟩
    exact h List.mem_cons_self

theorem readFlag_append {ls : List String} (h : ls.head? ≠ some "#nullable enable") (nullable : Bool) :
    readFlag ((if nullable then ["#nullable enable"] else []) ++ ls) = (nullable, ls) := by
  cases nullable with
  | true => simp [readFlag]
  | false => exact if_neg h

theorem read?_layout (h : c.Separate) : read? c.layout = some c := by
  have hflag := readFlag_append (head?_append_ne h.2 c.scope) c.nullable
  have hdrop : c.layout.drop 2 =
      (if c.nullable then ["#nullable enable"] else []) ++ (c.directives ++ "" :: c.scope) := by
    simp [layout]
  rw [read?, hdrop, hflag]
  simp [cut?_append h.1, readScope?_scope]

structure IsOneLine (c : FileContent) : Prop where
  directives : ∀ d ∈ c.directives, OneLine d
  «namespace» : OneLine c.namespace
  declaration : ∀ line ∈ c.declaration, OneLine line

theorem oneLine_of_mem_indented {ls : List String} (h : ∀ line ∈ ls, OneLine line) :
    ∀ line ∈ indented ls, OneLine line := by
  refine List.forall_mem_map.2 fun line hline => ?_
  rw [OneLine, String.toList_ofList]
  exact unbroken_of_mem_indentLines (List.forall_mem_map.2 h) line hline

theorem IsOneLine.scope (h : c.IsOneLine) : ∀ line ∈ c.scope, OneLine line := by
  have hname : OneLine ("namespace " ++ c.namespace) := oneLine_append.2 ⟨oneLine_literal, h.namespace⟩
  unfold FileContent.scope
  split
  · refine List.forall_mem_cons.2 ⟨oneLine_append.2 ⟨hname, oneLine_literal⟩, ?_⟩
    exact List.forall_mem_cons.2 ⟨oneLine_literal, h.declaration⟩
  · refine List.forall_mem_cons.2 ⟨hname, List.forall_mem_cons.2 ⟨oneLine_literal, ?_⟩⟩
    exact List.forall_mem_append.2 ⟨oneLine_of_mem_indented h.declaration, List.forall_mem_singleton.2 oneLine_literal⟩

theorem oneLine_of_mem_header {ds : List String} (nullable : Bool) (h : ∀ d ∈ ds, OneLine d) : ∀ line ∈
    ["// <auto-generated> This file has been auto generated by kusto_ormgen. </auto-generated>",
      "#pragma warning disable IDE1006 // Naming Styles"] ++
    (if nullable then ["#nullable enable"] else []) ++ ds, OneLine line := by
  refine List.forall_mem_append.2 ⟨List.forall_mem_append.2 ⟨?_, ?_⟩, h⟩
  · exact List.forall_mem_cons.2 ⟨oneLine_literal, List.forall_mem_singleton.2 oneLine_literal⟩
  · split
    · exact List.forall_mem_singleton.2 oneLine_literal
    · exact List.forall_mem_nil _

theorem IsOneLine.layout (h : c.IsOneLine) : ∀ line ∈ c.layout, OneLine line :=
  List.forall_mem_append.2 ⟨oneLine_of_mem_header c.nullable h.directives,
    List.forall_mem_cons.2 ⟨oneLine_literal, h.scope⟩⟩

end FileContent

namespace FileFrame

variable {f : FileFrame} {ls body : List String} {d own : String} {usings : List String}

@[simp] theorem linesOf_nil : linesOf [] = "" := rfl

theorem linesOf_append (ls ls' : List String) : linesOf (ls ++ ls') = linesOf ls ++ linesOf ls' := by
  simp [linesOf]

theorem linesOf_cons (line : String) (ls : List String) : linesOf (line :: ls) = line ++ "\n" ++ linesOf ls := by
  simp [linesOf]

theorem toList_linesOf (ls : List String) : (linesOf ls).toList = endedLines (ls.map String.toList) := by
  simp [linesOf, endedLines, String.toList_join, List.flatMap_map]

theorem linesIn_linesOf_append (h : ∀ line ∈ ls, OneLine line) (rest : String) :
    linesIn (linesOf ls ++ rest) = ls ++ linesIn rest := by
  rw [linesIn, String.toList_append, toList_linesOf, lines_endedLines_append (List.forall_mem_map.2 h), List.map_append,
    List.map_map]
  congr 1
  exact List.map_id'' (fun line => String.ofList_toList) ls

theorem linesIn_linesOf (h : ∀ line ∈ ls, OneLine line) : linesIn (linesOf ls) = ls := by
  have hlines := linesIn_linesOf_append h ""
  rwa [String.append_empty, show linesIn "" = [] from rfl, List.append_nil] at hlines

/-- What a file says by its frame and by the lines of its declaration. -/
def content (f : FileFrame) (declaration : List String) : FileContent :=
  ⟨f.nullable, directives f.usings f.namespace, f.namespace, f.fileScoped, declaration⟩

theorem mem_directives_iff :
    d ∈ directives usings own ↔ ∃ u ∈ usings, u ≠ "" ∧ u ≠ own ∧ directive u = d := by
  simp [directives, List.mem_eraseDups, and_assoc]

theorem prefix_directive (u : String) : "using".toList <+: (directive u).toList := by
  unfold directive
  split
  · next h => exact List.isPrefixOf_iff_prefix.1 h
  · exact ⟨(" " ++ u ++ ";").toList, by simp⟩

theorem prefix_of_mem_directives (h : d ∈ directives usings own) : "using".toList <+: d.toList := by
  obtain ⟨u, -, -, -, rfl⟩ := mem_directives_iff.1 h
  exact prefix_directive u

theorem separate_content (f : FileFrame) (declaration : List String) : (f.content declaration).Separate :=
  ⟨fun h => absurd (prefix_of_mem_directives h) (by decide),
    fun h => absurd (prefix_of_mem_directives h) (by decide)⟩

/-- The texts of a frame that have to stand on one line. -/
structure IsOneLine (f : FileFrame) : Prop where
  «namespace» : OneLine f.namespace
  usings : ∀ u ∈ f.usings, OneLine u

theorem oneLine_directive (h : OneLine d) : OneLine (directive d) := by
  unfold directive
  split
  · exact h
  · exact oneLine_append.2 ⟨oneLine_append.2 ⟨oneLine_literal, h⟩, oneLine_literal⟩

theorem oneLine_of_mem_closed (h : ∀ line ∈ body, OneLine line) : ∀ line ∈ body ++ ["\x7d"], OneLine line :=
  List.forall_mem_append.2 ⟨h, List.forall_mem_singleton.2 oneLine_literal⟩

theorem ofList_intercalate (h : ls ≠ []) :
    String.ofList (['\n'].intercalate (ls.map String.toList)) ++ "\n" = linesOf ls := by
  refine String.toList_inj.1 ?_
  rw [toList_linesOf, ← intercalate_append_end (mt List.map_eq_nil_iff.1 h), String.toList_append,
    String.toList_ofList]
  rfl

theorem bodyOf_linesOf (body : List String) :
    bodyOf (linesOf (body ++ ["\x7d"])) = ['\n'].intercalate ((body ++ ["\x7d"]).map String.toList) := by
  rw [bodyOf, toList_linesOf, List.map_append]
  exact dropEnd_endedLines (body.map String.toList) [] (by decide)

theorem ofList_indent_intercalate (h : ls ≠ []) (hls : ∀ line ∈ ls, OneLine line) :
    String.ofList (indent (['\n'].intercalate (ls.map String.toList))) ++ "\n" =
      linesOf (FileContent.indented ls) := by
  have hne : ls.map String.toList ≠ [] := mt List.map_eq_nil_iff.1 h
  have hlists : (FileContent.indented ls).map String.toList = indentLines (ls.map String.toList) := by
    rw [FileContent.indented, List.map_map]
    exact List.map_id'' (fun line => String.toList_ofList) _
  rw [indent_intercalate hne (List.forall_mem_map.2 hls), ← hlists]
  refine ofList_intercalate fun hnil => indentLines_ne_nil hne ?_
  rw [← hlists, hnil, List.map_nil]

/-- The text of a file is made of the lines of what it says. -/
theorem text_of_bodyOf (f : FileFrame) (hne : ls ≠ []) (hls : ∀ line ∈ ls, OneLine line) {declaration : String}
    (hbody : bodyOf declaration = ['\n'].intercalate (ls.map String.toList)) :
    f.text declaration = linesOf (f.content ls).layout := by
  have hplain := ofList_intercalate hne
  have hindented := ofList_indent_intercalate hne hls
  have hlayout : (f.content ls).layout = f.header ++ "" :: (f.content ls).scope := rfl
  rw [text, hbody, hlayout, linesOf_append, linesOf_cons]
  cases hf : f.fileScoped with
  | true =>
    have hscope : (f.content ls).scope = ("namespace " ++ f.namespace ++ ";") :: "" :: ls := by
      simp [FileContent.scope, content, hf]
    rw [hscope, linesOf_cons, linesOf_cons, ← hplain]
    simp [← String.toList_inj]
  | false =>
    have hscope : (f.content ls).scope =
        ("namespace " ++ f.namespace) :: "\x7b" :: (FileContent.indented ls ++ ["\x7d"]) := by
      simp [FileContent.scope, content, hf]
    rw [hscope, linesOf_cons, linesOf_cons, linesOf_append, linesOf_cons, ← hindented]
    simp [← String.toList_inj]

theorem text_linesOf (f : FileFrame) (hbody : ∀ line ∈ body, OneLine line) :
    f.text (linesOf (body ++ ["\x7d"])) = linesOf (f.content (body ++ ["\x7d"])).layout :=
  f.text_of_bodyOf (List.append_ne_nil_of_right_ne_nil _ (List.cons_ne_nil _ _)) (oneLine_of_mem_closed hbody)
    (bodyOf_linesOf body)

theorem oneLine_of_mem_directives (h : ∀ u ∈ usings, OneLine u) : ∀ d ∈ directives usings own, OneLine d := by
  intro d hd
  obtain ⟨u, hu, -, -, rfl⟩ := mem_directives_iff.1 hd
  exact oneLine_directive (h u hu)

theorem isOneLine_content (hf : f.IsOneLine) (hls : ∀ line ∈ ls, OneLine line) : (f.content ls).IsOneLine where
  directives := oneLine_of_mem_directives hf.usings
  «namespace» := hf.namespace
  declaration := hls

/-- What a file says can be read off its text. -/
theorem read?_text (hf : f.IsOneLine) (hbody : ∀ line ∈ body, OneLine line) :
    FileContent.read? (linesIn (f.text (linesOf (body ++ ["\x7d"])))) = some (f.content (body ++ ["\x7d"])) := by
  rw [text_linesOf f hbody, linesIn_linesOf (isOneLine_content hf (oneLine_of_mem_closed hbody)).layout]
  exact FileContent.read?_layout (separate_content f _)

end FileFrame
end EntityGen
