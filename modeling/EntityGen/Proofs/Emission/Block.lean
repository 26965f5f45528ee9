import EntityGen.Proofs.Emission.SourceFile
import EntityGen.Proofs.Text.Cutting
import EntityGen.Schema.TypeMap

/-! A declaration stands in a block as it stands in a file of its own, but for the margin. -/

namespace EntityGen

open Text

theorem TypeMap.dropStart_append (start s : String) : dropStart start (start ++ s) = s := by
  rw [dropStart, if_pos (by simp [List.isPrefixOf_iff_prefix]), String.toList_append, ← String.length_toList,
    List.drop_left, String.ofList_toList]

open TypeMap (dropStart dropStart_append)

namespace FileFrame

variable {declaration : String}

/-- Lines end with line feeds and with nothing else. -/
def EndsLinesPlainly (declaration : String) : Prop := ∀ c ∈ declaration.toList, isLineEnd c = true → c = '\n'

-- by the list, not by going through all characters
instance (declaration : String) : Decidable (EndsLinesPlainly declaration) :=
  List.decidableBAll (fun c => isLineEnd c = true → c = '\n') declaration.toList

/-- The lines of a declaration. -/
def bodyLines (declaration : String) : List String := ((bodyOf declaration).splitOn '\n').map String.ofList

theorem map_toList_bodyLines (declaration : String) :
    (bodyLines declaration).map String.toList = (bodyOf declaration).splitOn '\n' := by
  rw [bodyLines, List.map_map]
  exact List.map_id'' (fun line => String.toList_ofList) _

theorem bodyLines_ne_nil (declaration : String) : bodyLines declaration ≠ [] :=
  mt List.map_eq_nil_iff.1 (List.splitOn_ne_nil '\n' _)

theorem bodyOf_eq (declaration : String) :
    bodyOf declaration = ['\n'].intercalate ((bodyLines declaration).map String.toList) := by
  rw [map_toList_bodyLines]
  exact (List.intercalate_splitOn '\n').symm

theorem toList_intercalate_bodyLines (declaration : String) :
    ("\n".intercalate (bodyLines declaration)).toList = bodyOf declaration := by
  rw [String.toList_intercalate, bodyOf_eq]
  rfl

theorem oneLine_of_mem_bodyLines (h : EndsLinesPlainly declaration) : ∀ line ∈ bodyLines declaration, OneLine line := by
  refine List.forall_mem_map.2 fun line hline => ?_
  rw [OneLine, String.toList_ofList]
  intro c hc
  by_contra hend
  have hmem : c ∈ declaration.toList := (List.rdropWhile_prefix _ _).mem (mem_of_mem_splitOn hline hc)
  -- the only character that might end a line is the one that the lines are cut at
  rw [h c hmem (Bool.eq_true_of_not_eq_false hend)] at hc
  exact notMem_of_mem_splitOn hline hc

theorem map_dropStart_indented (ls : List String) : (FileContent.indented ls).map (dropStart "    ") = ls := by
  have hmargin : ∀ line, (dropStart "    " (String.ofList (margin ++ line))).toList = line := by
    intro line
    rw [String.ofList_append]
    exact (congrArg String.toList (dropStart_append "    " _)).trans String.toList_ofList
  have hdrop := map_indentLines (g := fun line => (dropStart "    " (String.ofList line)).toList) hmargin rfl
    (ls.map String.toList)
  rw [FileContent.indented, List.map_map]
  refine List.map_injective_iff.2 (fun _ _ => String.toList_injective) ?_
  rwa [List.map_map]

/-- How a declaration is set out in the two layouts of a file: the lines in the block are those of the other layout, with a
margin that can be taken off. What is not set out is the line feeds at the end. -/
structure SetOut (f : FileFrame) (declaration : String) (body inner : List String) (ends : String) : Prop where
  whole : declaration = "\n".intercalate body ++ ends
  ends : ∀ c ∈ ends.toList, c = '\n'
  last : ("\n".intercalate body).toList.getLast? ≠ some '\n'
  oneLine : ∀ line ∈ body ++ inner, OneLine line
  fileScoped : { f with fileScoped := true }.text declaration =
    linesOf (f.header ++ ["", "namespace " ++ f.namespace ++ ";", ""] ++ body)
  block : { f with fileScoped := false }.text declaration =
    linesOf (f.header ++ ["", "namespace " ++ f.namespace, "\x7b"] ++ inner ++ ["\x7d"])
  margin : inner.map (dropStart "    ") = body

/-- The two layouts say the same. -/
theorem text_setOut (f : FileFrame) (h : EndsLinesPlainly declaration) :
    ∃ body inner ends, SetOut f declaration body inner ends := by
  have hlines := oneLine_of_mem_bodyLines h
  have htext := fun f : FileFrame => f.text_of_bodyOf (bodyLines_ne_nil declaration) hlines (bodyOf_eq declaration)
  refine ⟨bodyLines declaration, FileContent.indented (bodyLines declaration),
    String.ofList (declaration.toList.rtakeWhile (· = '\n')), ?_⟩
  constructor
  case whole =>
    refine String.toList_inj.1 ?_
    rw [String.toList_append, toList_intercalate_bodyLines, String.toList_ofList]
    exact List.rdropWhile_append_rtakeWhile.symm
  case ends =>
    intro c hc
    rw [String.toList_ofList] at hc
    exact of_decide_eq_true (List.mem_rtakeWhile_imp (p := (· = '\n')) hc)
  case last =>
    rw [toList_intercalate_bodyLines]
    intro hlast
    obtain ⟨hne, hlast⟩ := List.mem_getLast?_eq_getLast hlast
    refine List.rdropWhile_last_not (· = '\n') declaration.toList hne ?_
    exact decide_eq_true hlast.symm
  case oneLine => exact List.forall_mem_append.2 ⟨hlines, FileContent.oneLine_of_mem_indented hlines⟩
  case fileScoped =>
    rw [htext, List.append_assoc]
    rfl
  case block =>
    rw [htext, List.append_assoc, List.append_assoc]
    rfl
  case margin => exact map_dropStart_indented _

theorem text_setOut_blank_line : EndsLinesPlainly "  a\n\n    b\n\n" ∧
    ∃ body inner ends, SetOut ⟨"N", ["System"], true, true⟩ "  a\n\n    b\n\n" body inner ends := by
  have h : EndsLinesPlainly "  a\n\n    b\n\n" := by decide
  exact ⟨h, text_setOut _ h⟩

end FileFrame
end EntityGen
