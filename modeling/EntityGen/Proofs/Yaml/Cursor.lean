import EntityGen.Proofs.Yaml.Fault

/-! A cursor only moves on: what is left at it is the end of the text. -/

namespace EntityGen.Yaml

/-- A place in a text. -/
def Cursor.IsIn (c : Cursor) (text : List Char) : Prop := c.left <:+ text

namespace Cursor.IsIn

variable {text s : List Char} {c c' : Cursor} {cause : DataFault → Prop}

theorem of_eq (h : c.left = text) : c.IsIn text := h ▸ List.suffix_rfl

@[simp] theorem left_next (c : Cursor) : c.next.left = c.left.tail := by
  unfold Cursor.next
  split
  · next h => rw [h, List.tail_nil]
  · next h =>
    rw [h, List.tail_cons]
    split <;> rfl

@[simp] theorem left_skip (n : Nat) (c : Cursor) : (c.skip n).left = c.left.drop n := by
  induction n generalizing c with
  | zero => rfl
  | succ n ih => rw [Cursor.skip, ih, left_next, List.drop_tail]

theorem next (h : c.IsIn text) : c.next.IsIn text := by
  rw [IsIn, left_next]
  exact (List.tail_suffix _).trans h

theorem skip (n : Nat) (h : c.IsIn text) : (c.skip n).IsIn text := by
  rw [IsIn, left_skip]
  exact (List.drop_suffix n _).trans h

theorem span (p : Char → Bool) (h : c.IsIn text) : (c.span p).2.IsIn text := h.skip _

theorem skipWhile (p : Char → Bool) (h : c.IsIn text) : (c.skipWhile p).IsIn text := h.span p

theorem skipSpaces (h : c.IsIn text) : c.skipSpaces.IsIn text := h.skipWhile _

theorem skipComment (h : c.IsIn text) : c.skipComment.IsIn text := by
  unfold Cursor.skipComment
  split
  · exact h.skipWhile _
  · exact h

theorem lineBreak (h : c.IsIn text) : c.lineBreak.2.IsIn text := by
  unfold Cursor.lineBreak
  split
  · split
    · exact h.next
    · exact h
  · exact h

theorem of_span {p : Char → Bool} (h : c.IsIn text) (hc : c.span p = (s, c')) : c'.IsIn text := by
  have hspan := h.span p
  rwa [hc] at hspan

theorem of_lineBreak (h : c.IsIn text) (hc : c.lineBreak = (s, c')) : c'.IsIn text := by
  have hbreak := h.lineBreak
  rwa [hc] at hbreak

theorem restOfLine (h : c.IsIn text) : Explained cause (·.IsIn text) c.restOfLine := by
  unfold Cursor.restOfLine
  dsimp only
  split
  · exact .ok h.skipSpaces.skipComment.lineBreak
  · exact .malformed

end Cursor.IsIn
end EntityGen.Yaml
