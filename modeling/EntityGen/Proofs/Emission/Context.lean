import EntityGen.Emission.Context
import EntityGen.Proofs.Emission.SourceFile

/-! The file of a context tells which artifacts it gives access to. -/

namespace EntityGen

open Text

/-- All that is shown of an artifact stands on one line, and the name of its type has no mark in it that ends one. -/
structure Artifact.IsReadable (a : Artifact) : Prop where
  typeName : OneLine a.typeName ∧ '>' ∉ a.typeName.toList
  query : OneLine a.query
  declaration : OneLine a.declaration

namespace ContextClass

variable {c : ContextClass} {f : FileFrame} {a : Artifact} {artifacts : List Artifact} {ls : List String}

/-- Lines that give access to artifacts: two for each, and one blank line between one artifact and the next. -/
inductive Accesses : List Artifact → List String → Prop
  | nil : Accesses [] []
  | last (a : Artifact) : Accesses [a]
      ["    public virtual IQueryable<" ++ a.typeName ++ "> " ++ a.declaration,
        "        => CreateQuery<" ++ a.typeName ++ ">($\"" ++ a.query ++ "\");"]
  | cons (a : Artifact) {next : Artifact} {rest : List Artifact} {ls : List String} :
      Accesses (next :: rest) ls → Accesses (a :: next :: rest)
        (("    public virtual IQueryable<" ++ a.typeName ++ "> " ++ a.declaration) ::
          ("        => CreateQuery<" ++ a.typeName ++ ">($\"" ++ a.query ++ "\");") :: "" :: ls)

/-- An artifact, read off its two lines; both of them have to name one type. -/
def readAccessor? (first second : String) : Option Artifact := do
  let shown ← between? "    public virtual IQueryable<" "" first
  let (typeName, _) ← cut? '>' shown.toList
  let typeName := String.ofList typeName
  let declaration ← between? ("    public virtual IQueryable<" ++ typeName ++ "> ") "" first
  let query ← between? ("        => CreateQuery<" ++ typeName ++ ">($\"") "\");" second
  some ⟨typeName, query, declaration⟩

/-- The artifacts that lines give access to. -/
def readAccessors? : List String → Option (List Artifact)
  | [] => some []
  | [first, second] => do some [← readAccessor? first second]
  | first :: second :: "" :: next :: rest => do
    some ((← readAccessor? first second) :: (← readAccessors? (next :: rest)))
  | _ => none

/-- The artifacts of a context, read off the lines of its file. Six lines stand before the accessors, and one behind
them. -/
def readArtifacts? (ls : List String) : Option (List Artifact) := do
  let file ← FileContent.read? ls
  readAccessors? (file.declaration.drop 6).dropLast

theorem accesses_accessors (artifacts : List Artifact) : Accesses artifacts (accessors artifacts) := by
  induction artifacts with
  | nil => exact .nil
  | cons a rest ih =>
    cases rest with
    | nil => exact .last a
    | cons next rest => exact .cons a ih

theorem readAccessor?_accessor (h : '>' ∉ a.typeName.toList) :
    readAccessor? ("    public virtual IQueryable<" ++ a.typeName ++ "> " ++ a.declaration)
      ("        => CreateQuery<" ++ a.typeName ++ ">($\"" ++ a.query ++ "\");") = some a := by
  have hshown : between? "    public virtual IQueryable<" ""
      ("    public virtual IQueryable<" ++ a.typeName ++ "> " ++ a.declaration) =
      some (a.typeName ++ "> " ++ a.declaration) := by
    simp only [String.append_assoc, between?_append_right]
  have hinner : (a.typeName ++ "> " ++ a.declaration).toList =
      a.typeName.toList ++ '>' :: ' ' :: a.declaration.toList := by simp
  have hdeclaration := between?_append_right ("    public virtual IQueryable<" ++ a.typeName ++ "> ") a.declaration
  have hquery := between?_append ("        => CreateQuery<" ++ a.typeName ++ ">($\"") a.query "\");"
  unfold readAccessor?
  simp only [hshown, hinner, cut?_append h, String.ofList_toList, hdeclaration, hquery, Option.bind_eq_bind,
    Option.bind_some]

theorem Accesses.read (h : Accesses artifacts ls) (ha : ∀ a ∈ artifacts, '>' ∉ a.typeName.toList) :
    readAccessors? ls = some artifacts := by
  induction h with
  | nil => rfl
  | last a =>
    rw [readAccessors?, readAccessor?_accessor (ha a List.mem_cons_self)]
    rfl
  | cons a hrest ih =>
    obtain ⟨hclose, hnext⟩ := List.forall_mem_cons.1 ha
    have hread := ih hnext
    -- what follows the blank line is no empty list
    cases hrest <;> rw [readAccessors?, readAccessor?_accessor hclose, hread] <;> rfl

/-- Everything that the file of a context is made of stands on one line. -/
structure IsReadable (c : ContextClass) (f : FileFrame) (artifacts : List Artifact) : Prop where
  frame : f.IsOneLine
  name : OneLine c.name
  base : OneLine c.base
  executor : OneLine c.executor
  artifacts : ∀ a ∈ artifacts, a.IsReadable

theorem oneLine_of_mem_accessor (h : a.IsReadable) : ∀ line ∈ accessor a, OneLine line := by
  unfold accessor
  simp only [List.forall_mem_cons, oneLine_append]
  exact ⟨⟨⟨⟨oneLine_literal, h.typeName.1⟩, oneLine_literal⟩, h.declaration⟩,
    ⟨⟨⟨⟨oneLine_literal, h.typeName.1⟩, oneLine_literal⟩, h.query⟩, oneLine_literal⟩, List.forall_mem_nil _⟩

theorem Accesses.oneLine (h : Accesses artifacts ls) (ha : ∀ a ∈ artifacts, a.IsReadable) :
    ∀ line ∈ ls, OneLine line := by
  induction h with
  | nil => exact List.forall_mem_nil _
  | last a => exact oneLine_of_mem_accessor (ha a List.mem_cons_self)
  | cons a _ ih =>
    obtain ⟨hfirst, hnext⟩ := List.forall_mem_cons.1 ha
    have hrest := List.forall_mem_cons.2 ⟨show OneLine "" from oneLine_literal, ih hnext⟩
    exact List.forall_mem_append.2 ⟨oneLine_of_mem_accessor hfirst, hrest⟩

theorem IsReadable.lines (h : IsReadable c f artifacts) : ∀ line ∈
    ["public partial class " ++ c.name ++ " : " ++ c.base, "\x7b"] ++ c.constructorLines ++ [""] ++
      accessors artifacts, OneLine line := by
  refine List.forall_mem_append.2 ⟨?_, (accesses_accessors artifacts).oneLine h.artifacts⟩
  have hheader : OneLine ("public partial class " ++ c.name ++ " : " ++ c.base) := by
    simp only [oneLine_append]
    exact ⟨⟨⟨oneLine_literal, h.name⟩, oneLine_literal⟩, h.base⟩
  have hconstructor : OneLine ("    public " ++ c.name ++ "(" ++ c.executor ++ " executor) : base(executor)") := by
    simp only [oneLine_append]
    exact ⟨⟨⟨⟨oneLine_literal, h.name⟩, oneLine_literal⟩, h.executor⟩, oneLine_literal⟩
  refine List.forall_mem_cons.2 ⟨hheader, List.forall_mem_cons.2 ⟨oneLine_literal, ?_⟩⟩
  refine List.forall_mem_cons.2 ⟨hconstructor, List.forall_mem_cons.2 ⟨oneLine_literal, ?_⟩⟩
  exact List.forall_mem_cons.2 ⟨oneLine_literal, List.forall_mem_singleton.2 oneLine_literal⟩

/-- The file of a context shows its artifacts in their order, and they can be read off it. -/
theorem text_shows (h : IsReadable c f artifacts) :
    (∃ accessors, Accesses artifacts accessors ∧
      FileContent.read? (linesIn (c.text f artifacts)) = some (f.content
        (["public partial class " ++ c.name ++ " : " ++ c.base, "\x7b",
            "    public " ++ c.name ++ "(" ++ c.executor ++ " executor) : base(executor)", "    \x7b", "    \x7d", ""] ++
          accessors ++ ["\x7d"]))) ∧
      readArtifacts? (linesIn (c.text f artifacts)) = some artifacts := by
  have haccesses := accesses_accessors artifacts
  have hfile := FileFrame.read?_text h.frame h.lines
  have hread := haccesses.read fun a ha => (h.artifacts a ha).typeName.2
  refine ⟨⟨accessors artifacts, haccesses, hfile⟩, ?_⟩
  rw [readArtifacts?, text, declaration, hfile]
  simp [FileFrame.content, constructorLines, hread]

theorem text_shows_two :
    let c : ContextClass := { name := "C" }
    let f : FileFrame := ⟨"N", ["System"], true, false⟩
    let artifacts : List Artifact := [⟨"T", "T", "T"⟩, ⟨"F", "F(0)", "F()"⟩]
    IsReadable c f artifacts ∧ readArtifacts? (linesIn (c.text f artifacts)) = some artifacts ∧
      FileContent.read? (linesIn (c.text f artifacts)) = some ⟨true, ["using System;"], "N", false,
        ["public partial class C : ORMKustoDbContext", "\x7b",
          "    public C(IKustoDbContextExecutor executor) : base(executor)", "    \x7b", "    \x7d", "",
          "    public virtual IQueryable<T> T", "        => CreateQuery<T>($\"T\");", "",
          "    public virtual IQueryable<F> F()", "        => CreateQuery<F>($\"F(0)\");", "\x7d"]⟩ := by
  have h : IsReadable { name := "C" } ⟨"N", ["System"], true, false⟩
      [⟨"T", "T", "T"⟩, ⟨"F", "F(0)", "F()"⟩] :=
    { frame := ⟨oneLine_literal, List.forall_mem_singleton.2 oneLine_literal⟩
      name := oneLine_literal
      base := oneLine_literal
      executor := oneLine_literal
      artifacts := by
        simp only [List.forall_mem_cons]
        exact ⟨⟨by decide, oneLine_literal, oneLine_literal⟩, ⟨by decide, oneLine_literal, oneLine_literal⟩,
          List.forall_mem_nil _⟩ }
  obtain ⟨⟨accessors, haccesses, hfile⟩, hartifacts⟩ := text_shows h
  cases haccesses with
  | cons _ hrest =>
    cases hrest
    exact ⟨h, hartifacts, hfile⟩

end ContextClass
end EntityGen
