import Mathlib
import EntityGen.Text.Lines

/-! Texts that are put together from lines are taken apart into the same lines. -/

namespace EntityGen.Text

/-- A text that stands on one line. -/
def Unbroken (s : List Char) : Prop := ∀ c ∈ s, isLineEnd c = false

/-- The text of some lines, each of them ended. -/
def endedLines (ls : List (List Char)) : List Char := ls.flatMap (· ++ ['\n'])

variable {s t line : List Char} {ls : List (List Char)} {c : Char}

-- by the list, not by going through all characters
instance : Decidable (Unbroken s) := List.decidableBAll _ s

@[simp] theorem unbroken_append : Unbroken (s ++ t) ↔ Unbroken s ∧ Unbroken t := List.forall_mem_append

@[simp] theorem endedLines_nil : endedLines [] = [] := rfl

theorem endedLines_cons (line : List Char) (ls : List (List Char)) :
    endedLines (line :: ls) = line ++ '\n' :: endedLines ls := by
  rw [endedLines, List.flatMap_cons, List.append_assoc]
  rfl

theorem endedLines_append (ls ls' : List (List Char)) :
    endedLines (ls ++ ls') = endedLines ls ++ endedLines ls' := List.flatMap_append

theorem linesFrom_cons (hc : isLineEnd c = false) (line s : List Char) :
    linesFrom line (c :: s) = linesFrom (c :: line) s := by
  rw [linesFrom]
  · simp [hc]
  · rintro rest rfl
    cases hc

theorem linesFrom_append (hs : Unbroken s) (line t : List Char) :
    linesFrom line (s ++ '\n' :: t) = (line.reverse ++ s) :: linesFrom [] t := by
  induction s generalizing line with
  | nil => simp [linesFrom, show isLineEnd '\n' = true from rfl]
  | cons c s ih =>
    obtain ⟨hc, hs⟩ := List.forall_mem_cons.1 hs
    rw [List.cons_append, linesFrom_cons hc, ih hs]
    simp

theorem lines_endedLines_append (h : ∀ line ∈ ls, Unbroken line) (t : List Char) :
    lines (endedLines ls ++ t) = ls ++ lines t := by
  induction ls with
  | nil => rfl
  | cons line ls ih =>
    obtain ⟨hline, hls⟩ := List.forall_mem_cons.1 h
    rw [endedLines_cons, List.append_assoc, List.cons_append, lines, linesFrom_append hline]
    exact congrArg (line :: ·) (ih hls)

theorem lines_endedLines (h : ∀ line ∈ ls, Unbroken line) : lines (endedLines ls) = ls := by
  have hlines := lines_endedLines_append h []
  rwa [List.append_nil, show lines [] = [] from rfl, List.append_nil] at hlines

theorem intercalate_append_end (hls : ls ≠ []) : ['\n'].intercalate ls ++ ['\n'] = endedLines ls := by
  induction ls with
  | nil => exact absurd rfl hls
  | cons line ls ih =>
    cases ls with
    | nil => simp [endedLines_cons]
    | cons next ls =>
      rw [List.intercalate_cons_cons, List.append_assoc, ih (List.cons_ne_nil _ _), endedLines_cons line,
        List.append_assoc]
      rfl

theorem intercalate_concat (ls : List (List Char)) (last : List Char) :
    ['\n'].intercalate (ls ++ [last]) = endedLines ls ++ last := by
  have h := intercalate_append_end (List.append_ne_nil_of_right_ne_nil ls (List.cons_ne_nil last []))
  rw [endedLines_append, endedLines_cons, endedLines_nil] at h
  exact List.append_cancel_right (h.trans (List.append_assoc _ _ _).symm)

/-- Only the line feed that ends the last line is taken off if something else stands in front of it. -/
theorem dropEnd_endedLines (ls : List (List Char)) (last : List Char) (hc : c ≠ '\n') :
    dropEnd (· = '\n') (endedLines (ls ++ [last ++ [c]])) = ['\n'].intercalate (ls ++ [last ++ [c]]) := by
  have hend := intercalate_append_end (List.append_ne_nil_of_right_ne_nil ls (List.cons_ne_nil (last ++ [c]) []))
  rw [← hend, dropEnd_append_of_pos _ (decide_eq_true rfl), intercalate_concat, ← List.append_assoc,
    dropEnd_append_of_neg _ (decide_eq_false hc)]

theorem indent_intercalate (hls : ls ≠ []) (h : ∀ line ∈ ls, Unbroken line) :
    indent (['\n'].intercalate ls) = ['\n'].intercalate (indentLines ls) := by
  rw [indent, intercalate_append_end hls, lines_endedLines h]

theorem indentLines_ne_nil (hls : ls ≠ []) : indentLines ls ≠ [] := by
  cases ls with
  | nil => exact absurd rfl hls
  | cons first rest => exact List.cons_ne_nil _ _

theorem unbroken_margin_append (h : Unbroken line) : Unbroken (margin ++ line) :=
  unbroken_append.2 ⟨by decide, h⟩

theorem unbroken_of_mem_indentLines (h : ∀ line ∈ ls, Unbroken line) : ∀ line ∈ indentLines ls, Unbroken line := by
  cases ls with
  | nil => exact List.forall_mem_nil _
  | cons first rest =>
    obtain ⟨hfirst, hrest⟩ := List.forall_mem_cons.1 h
    refine List.forall_mem_cons.2 ⟨unbroken_margin_append hfirst, List.forall_mem_map.2 fun line hline => ?_⟩
    split
    · exact hrest line hline
    · exact unbroken_margin_append (hrest line hline)

/-- What takes the margin off a line, and leaves an empty line as it is, undoes indentation. -/
theorem map_indentLines {g : List Char → List Char} (hmargin : ∀ line, g (margin ++ line) = line) (hnil : g [] = [])
    (ls : List (List Char)) : (indentLines ls).map g = ls := by
  cases ls with
  | nil => rfl
  | cons first rest =>
    rw [indentLines, List.map_cons, hmargin, List.map_map]
    congr 1
    refine List.map_id'' (fun line => ?_) rest
    cases line with
    | nil => exact hnil
    | cons c line => exact hmargin (c :: line)

/-- What indentation put in front of the lines can be taken off again, also where it put nothing. -/
theorem map_drop_indentLines (ls : List (List Char)) : (indentLines ls).map (List.drop margin.length) = ls :=
  map_indentLines (fun _ => List.drop_left) rfl ls

theorem indentLines_of_ne_nil (h : ∀ line ∈ ls, line ≠ []) : indentLines ls = ls.map (margin ++ ·) := by
  cases ls with
  | nil => rfl
  | cons first rest =>
    rw [indentLines, List.map_cons]
    congr 1
    refine List.map_congr_left fun line hline => if_neg ?_
    rw [List.isEmpty_iff]
    exact h line (List.mem_cons_of_mem _ hline)

/-! ## Strings -/

/-- A string that stands on one line. -/
def OneLine (s : String) : Prop := Unbroken s.toList

instance (s : String) : Decidable (OneLine s) := inferInstanceAs (Decidable (Unbroken s.toList))

/-- The characters of a literal are at hand, so they need not be decoded. -/
theorem oneLine_literal {cs : List Char} (h : Unbroken cs := by decide) : OneLine (String.ofList cs) := by
  rwa [OneLine, String.toList_ofList]

@[simp] theorem oneLine_append {s t : String} : OneLine (s ++ t) ↔ OneLine s ∧ OneLine t := by
  rw [OneLine, String.toList_append, unbroken_append]
  rfl

/-- The lines of a string. -/
def linesIn (s : String) : List String := (lines s.toList).map String.ofList

/-! ## Parts of a line -/

section Cut

variable {α : Type} [DecidableEq α] {mark : α} {s t : List α}

/-- What stands before the first mark, and what stands behind it. -/
def cut? (mark : α) (l : List α) : Option (List α × List α) :=
  match l.dropWhile (· ≠ mark) with
  | [] => none
  | _ :: rest => some (l.takeWhile (· ≠ mark), rest)

/-- What stands before the last mark, and what stands behind it. -/
def cutLast? (mark : α) (l : List α) : Option (List α × List α) :=
  (cut? mark l.reverse).map fun (last, first) => (first.reverse, last.reverse)

theorem cut?_append (h : mark ∉ s) (t : List α) : cut? mark (s ++ mark :: t) = some (s, t) := by
  have hs : ∀ a ∈ s, decide (a ≠ mark) = true := fun a ha => decide_eq_true (ne_of_mem_of_not_mem ha h)
  rw [cut?, List.dropWhile_append_of_pos hs, List.takeWhile_append_of_pos hs]
  simp

theorem cutLast?_append (h : mark ∉ t) (s : List α) : cutLast? mark (s ++ mark :: t) = some (s, t) := by
  have hreverse : (s ++ mark :: t).reverse = t.reverse ++ mark :: s.reverse := by simp
  rw [cutLast?, hreverse, cut?_append (mt List.mem_reverse.1 h)]
  simp

end Cut

/-- What stands between the two ends of a line. -/
def between? (before after line : String) : Option String := do
  let rest ← line.toList.dropPrefix? before.toList
  let inner ← rest.dropSuffix? after.toList
  some (String.ofList inner)

theorem between?_append (before inner after : String) :
    between? before after (before ++ inner ++ after) = some inner := by
  have hbefore : (before.toList ++ (inner.toList ++ after.toList)).dropPrefix? before.toList =
      some (inner.toList ++ after.toList) := List.dropPrefix?_append_of_beq _ (beq_self_eq_true _)
  have hafter : (inner.toList ++ after.toList).dropSuffix? after.toList = some inner.toList :=
    List.dropSuffix?_eq_some_iff.2 ⟨after.toList, rfl, beq_self_eq_true _⟩
  simp [between?, hbefore, hafter]

theorem between?_append_right (before inner : String) : between? before "" (before ++ inner) = some inner := by
  have h := between?_append before inner ""
  rwa [String.append_empty] at h

end EntityGen.Text
