import EntityGen.Proofs.Number.Numeral
import EntityGen.Proofs.Yaml.Cursor
import EntityGen.Yaml.Scalar

/-! Reading the texts of scalars. Only an escape can have no value. -/

namespace EntityGen.Yaml

open Number

/-- A backslash, a letter and eight digits in a text stand for a number. -/
def HasLongEscape (text : List Char) (n : Nat) : Prop :=
  ∃ digits, digits.length = 8 ∧ natOfDigits? 16 digits = some n ∧ '\\' :: 'U' :: digits <:+: text

/-- Why the characters of a text are at fault although they keep the rules of the format. -/
inductive LexicalCause (text : List Char) : DataFault → Prop
  | noCode : HasLongEscape text n → 0x110000 ≤ n → n < 0x80000000 → LexicalCause text .notScalar
  | largeCode : HasLongEscape text n → 0x80000000 ≤ n → LexicalCause text .codeTooLarge
  /-- The number of a version has too many digits. -/
  | version : digits <:+: text → digits.all Char.isDigit → digitLimit < digits.length →
      LexicalCause text .numberTooLong

/-- What is read from a text ends in it, or there is a cause in the text. -/
def Reads {α : Type} (text : List Char) : Except Fault (α × Cursor) → Prop :=
  Explained (LexicalCause text) fun r => r.2.IsIn text

variable {text : List Char} {c : Cursor}

/-! ## Plain -/

theorem plainBreaks_isIn (fuel : Nat) (h : c.IsIn text) : (plainBreaks fuel c).2.IsIn text := by
  induction fuel generalizing c with
  | zero => exact h
  | succ fuel ih =>
    unfold plainBreaks
    split
    · exact h
    · dsimp only
      split
      · exact h.skipSpaces
      · next hc => exact ih (h.skipSpaces.of_lineBreak hc)

theorem plainGap_isIn (h : c.IsIn text) : (plainGap c).2.2.IsIn text := by
  unfold plainGap
  have hspan := h.span isSpace
  dsimp only
  split
  · exact hspan
  · next b c' _ hc =>
    have hbreaks := plainBreaks_isIn (c'.left.length + 1) (hspan.of_lineBreak hc)
    split
    all_goals
      next hc' =>
      rw [hc'] at hbreaks
      exact hbreaks

theorem plainText_isIn {flow ended : Bool} {indent : Int} {gap : List Char} (fuel : Nat) (h : c.IsIn text) :
    (plainText flow indent fuel gap ended c).2.2.IsIn text := by
  induction fuel generalizing gap ended c with
  | zero => exact h
  | succ fuel ih =>
    unfold plainText
    split
    · exact h
    · have hgap := plainGap_isIn (h.skip (plainWord flow c.left).length)
      dsimp only
      split
      · exact hgap
      · exact ih hgap

/-! ## Between quotes -/

theorem reads_quotedBreaks (fuel : Nat) (h : c.IsIn text) : Reads text (quotedBreaks fuel c) := by
  induction fuel generalizing c with
  | zero => exact .malformed
  | succ fuel ih =>
    unfold quotedBreaks
    have hblanks := h.skipWhile isSpaceOrTab
    split
    · exact .malformed
    · dsimp only
      split
      · exact .ok hblanks
      · next hc => exact (ih (hblanks.of_lineBreak hc)).bind fun _ hr => .ok hr

theorem reads_quotedGap (h : c.IsIn text) : Reads text (quotedGap c) := by
  unfold quotedGap
  have hspan := h.span isSpaceOrTab
  dsimp only
  split
  · exact .ok hspan
  · next hc => exact (reads_quotedBreaks _ (hspan.of_lineBreak hc)).bind fun _ hr => .ok hr

theorem Reads.codes {r : Reading} (h : Reads text r) : Reads text r.codes := h.map fun _ hr => hr

/-- The other escapes have too few digits for a number that is no code point. -/
theorem eq_of_escapeWidth? {x : Char} {width : Nat} (h : escapeWidth? x = some width)
    (hwidth : 0x110000 ≤ 16 ^ width) : x = 'U' ∧ width = 8 := by
  unfold escapeWidth? at h
  split at h
  · cases h
    simp at hwidth
  · cases h
    simp at hwidth
  · cases h
    exact ⟨rfl, rfl⟩
  · cases h

theorem explained_checkCode {n : Nat} (h : 0x110000 ≤ n → HasLongEscape text n) :
    Explained (LexicalCause text) (fun _ => True) (checkCode n) := by
  unfold checkCode
  split
  · trivial
  · next hn =>
    have hn := Nat.le_of_not_lt hn
    split
    · next hlarge => exact .data (.noCode (h hn) hn hlarge)
    · next hlarge => exact .data (.largeCode (h hn) (Nat.le_of_not_lt hlarge))

theorem reads_escaped (h : '\\' :: c.left <:+ text) : Reads text (escaped c) := by
  have hc : c.IsIn text := (List.suffix_cons _ _).trans h
  unfold escaped
  split
  · exact .malformed
  · next x rest hleft =>
    split
    · exact .ok hc.next
    · next width _ hwidth =>
      dsimp only
      split
      · exact .malformed
      · next hlength =>
        have hlength : (rest.take width).length = width :=
          Nat.le_antisymm (List.length_take_le width rest) (Nat.le_of_not_lt hlength)
        split
        · next n hn =>
          refine (explained_checkCode fun hlarge => ?_).bind fun _ _ => .ok (hc.next.skip width)
          -- the number is below a power of sixteen, which is large enough only with eight digits
          have hlt := natOfDigits?_lt hn
          rw [hlength] at hlt
          obtain ⟨rfl, rfl⟩ := eq_of_escapeWidth? hwidth (Nat.le_trans hlarge (Nat.le_of_lt hlt))
          rw [hleft] at h
          have hprefix : '\\' :: 'U' :: rest.take 8 <+: '\\' :: 'U' :: rest := by
            simp only [List.cons_prefix_cons, true_and]
            exact List.take_prefix 8 rest
          exact ⟨rest.take 8, hlength, hn, hprefix.isInfix.trans h.isInfix⟩
        · exact .malformed
    · split
      · exact .malformed
      · next hbreak => exact (reads_quotedBreaks _ (hc.of_lineBreak hbreak)).codes

theorem reads_quotedText (double : Bool) (fuel : Nat) (h : c.IsIn text) :
    Reads text (quotedText double fuel c) := by
  induction fuel generalizing c with
  | zero => exact .malformed
  | succ fuel ih =>
    have goOn {r : CodeReading} (hr : Reads text r) : Reads text (do
        let start ← r
        let more ← quotedText double fuel start.2
        return (start.1 ++ more.1, more.2)) :=
      hr.bind fun _ hc => (ih hc).bind fun _ hc => .ok hc
    unfold quotedText
    dsimp only
    split
    · exact .malformed
    · split
      · exact goOn (.ok h.next)
      · split
        · exact goOn (.ok (h.skip 2))
        · exact .ok h.next
    · split
      · exact .ok h.next
      · exact goOn (.ok h.next)
    · next hleft =>
      split
      · refine goOn (reads_escaped ?_)
        rw [Cursor.IsIn.left_next, hleft, List.tail_cons, ← hleft]
        exact h
      · exact goOn (.ok h.next)
    · split
      · exact goOn (reads_quotedGap h).codes
      · exact goOn (.ok h.next)

/-! ## Blocks of lines -/

theorem explained_increment? {cause : DataFault → Prop} (x : Option Char) :
    Explained cause (fun _ => True) (increment? x) := by
  unfold increment?
  split
  · split <;> trivial
  · trivial

theorem explained_blockHead (h : c.IsIn text) :
    Explained (LexicalCause text) (fun r => r.2.2.IsIn text) (blockHead c) := by
  have finish {chomping : Chomping} {width : Option Nat} {c : Cursor} (hc : c.IsIn text) :
      Explained (LexicalCause text) (fun r => r.2.2.IsIn text)
        (if endsWord c.peek then pure (chomping, width, c) else throw .malformed) := by
    split
    · exact .ok hc
    · exact .malformed
  unfold blockHead
  dsimp only
  split
  · refine (explained_increment? _).bind fun n _ => ?_
    split
    · exact finish (h.skip 2)
    · exact finish h.next
  · refine (explained_increment? _).bind fun n _ => ?_
    split
    · split
      · exact finish (h.skip 2)
      · exact finish h.next
    · exact finish h

theorem blockIndent_isIn (widest fuel : Nat) (h : c.IsIn text) :
    (blockIndent fuel widest c).2.2.IsIn text := by
  induction fuel generalizing widest c with
  | zero => exact h
  | succ fuel ih =>
    unfold blockIndent
    dsimp only
    split
    · exact h.skipSpaces
    · next hc => exact ih _ (h.skipSpaces.of_lineBreak hc)

theorem blockBreaks_isIn (indent : Int) (fuel : Nat) (h : c.IsIn text) :
    (blockBreaks indent fuel c).2.IsIn text := by
  induction fuel generalizing c with
  | zero => exact h
  | succ fuel ih =>
    unfold blockBreaks
    have hcolumn : (skipToColumn indent c).IsIn text := h.skip _
    dsimp only
    split
    · exact hcolumn
    · next hc => exact ih (hcolumn.of_lineBreak hc)

theorem blockLines_isIn {folded : Bool} {chomping : Chomping} {indent : Int} (fuel : Nat) (h : c.IsIn text) :
    (blockLines folded chomping indent fuel c).2.IsIn text := by
  induction fuel generalizing c with
  | zero => exact h
  | succ fuel ih =>
    unfold blockLines
    have hbreaks := blockBreaks_isIn indent
      ((c.span (!isBreak ·)).2.lineBreak.2.left.length + 1) (h.span (!isBreak ·)).lineBreak
    dsimp only
    split
    · exact ih hbreaks
    · exact hbreaks

theorem reads_blockText (folded : Bool) (outer : Int) (h : c.IsIn text) :
    Reads text (blockText folded outer c) := by
  unfold blockText
  refine (explained_blockHead h).bind fun (chomping, width, c₁) h₁ => ?_
  refine h₁.restOfLine.bind fun c₂ h₂ => ?_
  dsimp only
  cases width with
  | none =>
    have hindent := blockIndent_isIn 0 (c₂.left.length + 1) h₂
    dsimp only
    split
    · refine .ok ?_
      dsimp only
      exact blockLines_isIn _ hindent
    · exact .ok hindent
  | some n =>
    have hbreaks := blockBreaks_isIn (max (outer + 1) 1 + n - 1) (c₂.left.length + 1) h₂
    dsimp only
    split
    · refine .ok ?_
      dsimp only
      exact blockLines_isIn _ hbreaks
    · exact .ok hbreaks

end EntityGen.Yaml
