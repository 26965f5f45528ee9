/-! Texts that are joined with a mark, and cut at it again. -/

namespace EntityGen.Text

open String.Slice.Pattern.Model String.Slice.Pattern.Model.ForwardStringSearcher

variable {s : String.Slice} {p start stop : s.Pos} {mark part before after : String} {parts : List String} {c : Char}

/-- Where a part stands that lacks the first character of the mark, the mark starts nowhere. -/
theorem not_matchesAt_of_notMem (hmark : mark.toList.head? = some c) (hpart : c ∉ part.toList)
    (hstart : start.Splits before (part ++ after)) (hstop : stop.Splits (before ++ part) after)
    (hle : start ≤ p) (hlt : p < stop) : ¬MatchesAt mark p := by
  rw [matchesAt_iff_splits]
  rintro ⟨before', after', hp⟩
  obtain ⟨x, rfl, -⟩ := (hstart.le_iff_exists_eq_append hp).1 hle
  obtain ⟨y, hy, hxy, hafter⟩ := (hp.lt_iff_exists_eq_append hstop).1 hlt
  have hrest : part.toList = x.toList ++ y.toList := by
    simpa [String.append_assoc] using congrArg String.toList hxy
  have hhead : y.toList.head? = some c := by
    have hlists := congrArg (·.toList.head?) hafter
    cases hys : y.toList with
    | nil => exact absurd (String.toList_eq_nil_iff.1 hys) hy
    | cons d ys => simpa [List.head?_append, hmark, hys] using hlists.symm
  rw [hrest] at hpart
  exact hpart (List.mem_append_right _ (List.mem_of_head? hhead))

/-- From the start of a part on, a text is cut where the marks between the parts stand. -/
theorem split_of_splits [StrictPatternModel mark] (hmark : mark.toList.head? = some c)
    (hparts : ∀ q ∈ part :: parts, c ∉ q.toList)
    (hstart : start.Splits before (mark.intercalate (part :: parts))) :
    (String.Slice.Pattern.Model.split mark start start (Std.le_refl _)).map
      (String.Slice.copy ∘ String.Slice.Subslice.toSlice) = part :: parts := by
  have hpart := hparts part List.mem_cons_self
  induction parts generalizing part before start with
  | nil =>
    rw [String.intercalate_singleton] at hstart
    have hend : s.endPos.Splits (before ++ part) "" :=
      String.Slice.splits_endPos_iff.2 ⟨hstart.eq_append.symm, rfl⟩
    have hempty : start.Splits before (part ++ "") := hstart.of_eq rfl String.append_empty.symm
    rw [split_eq_of_not_matchesAt s.endPos start.le_endPos fun p => not_matchesAt_of_notMem hmark hpart hempty hend]
    simp [hstart.copy_sliceFrom_eq]
  | cons next parts ih =>
    rw [String.intercalate_cons_cons, String.append_assoc] at hstart
    have hstop := hstart.splits_rotateRight
    generalize hstart.rotateRight = stop at hstop
    have hnext := hstop.splits_rotateRight
    have hmatch : IsLongestMatchAt mark stop hstop.rotateRight :=
      isLongestMatchAt_iff_splits.2 ⟨_, _, hstop, hnext⟩
    obtain ⟨hle, hcopy⟩ := String.Slice.copy_slice_eq_iff_splits.2 ⟨_, _, hstart, hstop⟩
    have hrest := fun q hq => hparts q (List.mem_cons_of_mem part hq)
    rw [split_eq_of_not_matchesAt stop hle fun p => not_matchesAt_of_notMem hmark hpart hstart hstop,
      split_eq_of_isLongestMatchAt hmatch, List.map_cons, ih hrest hnext (hrest next List.mem_cons_self)]
    simpa using hcopy

/-- A text that is joined with a mark is cut at the mark into what it is made of, if no part has the first
character of the mark in it. -/
theorem split_intercalate (hmark : mark.toList.head? = some c) (hparts : ∀ part ∈ parts, c ∉ part.toList)
    (hne : parts ≠ []) : ((mark.intercalate parts).split mark).toList.map (·.copy) = parts := by
  have hmarkne : mark ≠ "" := by
    rintro rfl
    cases hmark
  have : StrictPatternModel mark := strictPatternModel hmarkne
  have : LawfulToForwardSearcherModel mark := lawfulToForwardSearcherModel hmarkne
  obtain ⟨part, parts, rfl⟩ := List.exists_cons_of_ne_nil hne
  rw [String.split_eq_split_toSlice, String.Slice.toList_split_eq_splitToSubslice,
    String.Slice.Pattern.toList_splitToSubslice_eq_modelSplit, List.map_map]
  have hstart : (mark.intercalate (part :: parts)).toSlice.startPos.Splits "" (mark.intercalate (part :: parts)) := by
    simp
  exact split_of_splits hmark hparts hstart

end EntityGen.Text
