import EntityGen.Proofs.Yaml.Scalar
import EntityGen.Yaml.Token

/-! Reading tokens. What is at fault although it keeps the rules is an escape or the number of a version. -/

namespace EntityGen.Yaml.Lexer

open Number

variable {text : List Char} {c : Cursor} {x : Lexer}

/-! ## Tags, anchors and directives -/

theorem reads_tagName (fuel : Nat) (h : c.IsIn text) : Reads text (tagName fuel c) := by
  induction fuel generalizing c with
  | zero => exact .ok h
  | succ fuel ih =>
    unfold tagName
    split
    next run c hc =>
    have hspan := h.of_span hc
    split
    · split
      · split
        · exact (ih (hspan.skip _)).bind fun _ hr => .ok hr
        · exact .malformed
      · exact .malformed
    · exact .ok hspan

theorem reads_nonemptyTagName (h : c.IsIn text) : Reads text (nonemptyTagName c) := by
  refine (reads_tagName _ h).bind fun r hr => ?_
  dsimp only
  split
  · exact .malformed
  · exact .ok hr

theorem reads_tagHandle (h : c.IsIn text) : Reads text (tagHandle c) := by
  unfold tagHandle
  split
  · exact .ok h.next
  · dsimp only
    split
    · exact .ok (h.skip _)
    · exact .malformed
  · exact .malformed

theorem reads_tagToken (h : c.IsIn text) : Reads text (tagToken c) := by
  have finish {t : Token} {c : Cursor} (hc : c.IsIn text) :
      Reads text (if endsWord c.peek then pure (t, c) else throw .malformed) := by
    split
    · exact .ok hc
    · exact .malformed
  have named {handle : List Char} {c : Cursor} (hc : c.IsIn text) : Reads text (do
      let name ← nonemptyTagName c
      if endsWord name.2.peek then
        return (Token.tag (some (String.ofList handle)) (String.ofList name.1), name.2)
      else throw .malformed) :=
    (reads_nonemptyTagName hc).bind fun _ hr => finish hr
  unfold tagToken
  dsimp only
  split
  · refine (reads_nonemptyTagName (h.skip 2)).bind fun r hr => ?_
    split
    · exact finish hr.next
    · exact .malformed
  · split
    · exact finish h.next
    · split
      · exact (reads_tagHandle h).bind fun _ hr => named hr
      · exact named h.next

theorem reads_name (h : c.IsIn text) : Reads text (name c) := by
  unfold name
  split
  · exact .malformed
  · next hc =>
    split
    · exact .ok (h.next.of_span hc)
    · exact .malformed

theorem reads_versionPart (h : c.IsIn text) : Reads text (versionPart c) := by
  unfold versionPart
  dsimp only
  split
  · split
    · next hlong =>
      have hrun : c.left.takeWhile Char.isDigit <:+: text := (List.takeWhile_prefix _).isInfix.trans h.isInfix
      exact .data (.version hrun List.all_takeWhile hlong)
    · exact .ok (h.span Char.isDigit)
  · exact .malformed

theorem reads_directiveBody {name : List Char} (h : c.IsIn text) : Reads text (directiveBody name c) := by
  unfold directiveBody
  split
  · refine (reads_versionPart h.skipSpaces).bind fun ⟨major, c₁⟩ h₁ => ?_
    dsimp only
    split
    · exact .malformed
    · refine (reads_versionPart h₁.next).bind fun ⟨_, c₂⟩ h₂ => ?_
      dsimp only
      split
      · exact .ok h₂
      · exact .malformed
  · split
    · refine (reads_tagHandle h.skipSpaces).bind fun ⟨handle, c₁⟩ h₁ => ?_
      dsimp only
      split
      · exact .malformed
      · refine (reads_nonemptyTagName h₁.skipSpaces).bind fun ⟨start, c₂⟩ h₂ => ?_
        dsimp only
        split
        · exact .ok h₂
        · exact .malformed
    · exact .ok (h.skipWhile _)

theorem reads_directive (h : c.IsIn text) : Reads text (directive c) := by
  unfold directive
  split
  · exact .malformed
  · next hc =>
    dsimp only
    split
    · exact .malformed
    · refine (reads_directiveBody (h.next.of_span hc)).bind fun _ hr => ?_
      exact hr.restOfLine.bind fun _ hc => .ok hc

/-! ## Tokens -/

@[simp] theorem cursor_endBlocksFrom (column : Int) (x : Lexer) (outer : List Int) :
    (endBlocksFrom column x outer).cursor = x.cursor := by
  induction outer generalizing x with
  | nil => rfl
  | cons i outer ih =>
    rw [endBlocksFrom]
    split
    · exact ih _
    · rfl

@[simp] theorem cursor_endBlocks (column : Int) (x : Lexer) : (x.endBlocks column).cursor = x.cursor := by
  unfold endBlocks
  split
  · rfl
  · exact cursor_endBlocksFrom _ _ _

@[simp] theorem cursor_startBlock (column : Int) (t : Token) (x : Lexer) :
    (x.startBlock column t).cursor = x.cursor := by
  unfold startBlock
  split <;> rfl

/-- A lexer stays in a text, or there is a cause in the text. -/
def Stays (text : List Char) : Except Fault Lexer → Prop :=
  Explained (LexicalCause text) (·.cursor.IsIn text)

theorem stays_dropKey (h : x.cursor.IsIn text) : Stays text x.dropKey := by
  unfold dropKey
  split
  · exact .malformed
  · exact .ok h

theorem stays_saveKey (h : x.cursor.IsIn text) : Stays text x.saveKey := by
  unfold saveKey
  split
  · exact (stays_dropKey h).bind fun _ hx => .ok hx
  · exact .ok h

theorem stays_dropStaleKeys (h : x.cursor.IsIn text) : Stays text x.dropStaleKeys := by
  unfold dropStaleKeys
  dsimp only
  split
  · exact .malformed
  · exact .ok h

theorem skipBlanks_isIn (fuel : Nat) (h : x.cursor.IsIn text) : (x.skipBlanks fuel).cursor.IsIn text := by
  induction fuel generalizing x with
  | zero => exact h
  | succ fuel ih =>
    unfold skipBlanks
    have hstart := h.skipSpaces.skipComment
    split
    · next hc => exact hstart.of_lineBreak hc
    · next hc => exact ih (hstart.of_lineBreak hc)

theorem stays_endAllBlocks (h : x.cursor.IsIn text) : Stays text x.endAllBlocks := by
  rw [← cursor_endBlocks (-1) x] at h
  exact (stays_dropKey h).bind fun _ hx => .ok hx

theorem stays_readDirective (h : x.cursor.IsIn text) : Stays text x.readDirective :=
  (stays_endAllBlocks h).bind fun _ hx => (reads_directive hx).bind fun _ hr => .ok hr

theorem stays_readSeparator {t : Token} (h : x.cursor.IsIn text) : Stays text (x.readSeparator t) :=
  (stays_endAllBlocks h).bind fun _ hx => .ok (hx.skip 3)

theorem stays_openFlow {t : Token} (h : x.cursor.IsIn text) : Stays text (x.openFlow t) :=
  (stays_saveKey h).bind fun _ hx => .ok (hx.skip 1)

theorem stays_closeFlow {t : Token} (h : x.cursor.IsIn text) : Stays text (x.closeFlow t) := by
  refine (stays_dropKey h).bind fun y hy => ?_
  split
  · exact .malformed
  · exact .ok (hy.skip 1)

theorem stays_readComma (h : x.cursor.IsIn text) : Stays text x.readComma :=
  (stays_dropKey h).bind fun _ hx => .ok (hx.skip 1)

theorem stays_readMark {start mark : Token} {mayKey : Bool} (h : x.cursor.IsIn text) :
    Stays text (x.readMark start mark mayKey) := by
  unfold readMark
  dsimp only
  split
  · exact .malformed
  · have hstart : ((x.startBlock x.column start).withMayKey mayKey).cursor.IsIn text :=
      (cursor_startBlock x.column start x).symm ▸ h
    exact (stays_dropKey hstart).bind fun _ hx => .ok (hx.skip 1)

theorem stays_readValue (h : x.cursor.IsIn text) : Stays text x.readValue := by
  unfold readValue
  split
  · refine .ok (Cursor.IsIn.skip 1 ?_)
    split <;> exact h
  · exact stays_readMark h

theorem stays_readItem {read : Cursor → Except Fault (Token × Cursor)}
    (hread : ∀ c : Cursor, c.IsIn text → Reads text (read c)) (h : x.cursor.IsIn text) :
    Stays text (x.readItem read) :=
  (stays_saveKey h).bind fun _ hx => (hread _ hx).bind fun _ hr => .ok hr

theorem stays_readBlockScalar {folded : Bool} (h : x.cursor.IsIn text) : Stays text (x.readBlockScalar folded) :=
  (stays_dropKey (x := x.withMayKey true) h).bind fun y hy =>
    (reads_blockText folded y.indent hy.next).bind fun _ hr => .ok hr

theorem stays_readQuoted {double : Bool} (h : x.cursor.IsIn text) : Stays text (x.readQuoted double) :=
  stays_readItem (fun _ hc => (reads_quotedText double _ hc.next).bind fun _ hr => .ok hr) h

theorem stays_readPlain (h : x.cursor.IsIn text) : Stays text x.readPlain := by
  refine (stays_saveKey h).bind fun y hy => ?_
  exact .ok (@plainText_isIn text y.cursor y.inFlow false (y.indent + 1) [] (y.cursor.left.length + 1) hy)

theorem Stays.ite {p : Prop} [Decidable p] {x y : Except Fault Lexer} (hx : Stays text x)
    (hy : Stays text y) : Stays text (if p then x else y) := by
  split
  · exact hx
  · exact hy

theorem stays_readToken (h : x.cursor.IsIn text) (start : Char) : Stays text (x.readToken start) := by
  have hname (token : String → Token) (c : Cursor) (hc : c.IsIn text) : Reads text (do
      let s ← name c
      return (token (String.ofList s.1), s.2)) :=
    (reads_name hc).bind fun _ hr => .ok hr
  refine .ite (stays_readDirective h) <| .ite (stays_readSeparator h) <| .ite (stays_readSeparator h) ?_
  refine .ite (stays_openFlow h) <| .ite (stays_openFlow h) ?_
  refine .ite (stays_closeFlow h) <| .ite (stays_closeFlow h) <| .ite (stays_readComma h) ?_
  refine .ite (stays_readMark h) <| .ite (stays_readMark h) <| .ite (stays_readValue h) ?_
  refine .ite (stays_readItem (hname .alias) h) <| .ite (stays_readItem (hname .anchor) h) ?_
  refine .ite (stays_readItem (fun _ => reads_tagToken) h) ?_
  refine .ite (stays_readBlockScalar h) <| .ite (stays_readBlockScalar h) ?_
  refine .ite (stays_readQuoted h) <| .ite (stays_readQuoted h) ?_
  exact .ite (stays_readPlain h) .malformed

theorem explained_step (h : x.cursor.IsIn text) :
    Explained (LexicalCause text) (fun y => ∀ z ∈ y, z.cursor.IsIn text) x.step := by
  refine (stays_dropStaleKeys (skipBlanks_isIn _ h)).bind fun y hy => ?_
  split
  · exact .ok nofun
  · next c _ =>
    rw [← cursor_endBlocks y.column] at hy
    refine (stays_readToken hy c).bind fun z hz => .ok ?_
    rintro _ ⟨⟩
    exact hz

/-- By induction on the fuel: every step stays in the text, so a fault of any step has its cause there. -/
theorem cause_of_run (fuel : Nat) (h : x.cursor.IsIn text) {fault : DataFault}
    (hfault : (run fuel x).fault = some (.data fault)) : LexicalCause text fault := by
  induction fuel generalizing x with
  | zero => simp [run] at hfault
  | succ fuel ih =>
    have hstep := explained_step h
    unfold run at hfault
    split at hfault
    · next hx =>
      rw [hx] at hstep
      exact ih (hstep _ rfl) hfault
    · have hend := stays_endAllBlocks h
      split at hfault
      · cases hfault
      · next hx =>
        cases hfault
        exact hend.cause_of_eq hx
    · next hx =>
      cases hfault
      exact hstep.cause_of_eq hx

end Lexer

theorem Tokens.cause_of_ofText {text : List Char} {fault : DataFault}
    (h : (Tokens.ofText text).fault = some (.data fault)) : LexicalCause text fault := by
  unfold Tokens.ofText at h
  split at h
  · refine Lexer.cause_of_run _ ?_ h
    have hstart : Cursor.IsIn { left := text } text := .of_eq rfl
    dsimp only
    split
    · exact hstart.next
    · exact hstart
  · cases h

end EntityGen.Yaml
