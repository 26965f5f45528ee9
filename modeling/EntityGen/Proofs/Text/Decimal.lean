import Mathlib
import EntityGen.Calendar

/-! Numbers in texts, each in so many digits: the texts are in the order of the numbers. -/

namespace EntityGen.Text

/-- A text shows a number in decimal, with zeros in front up to a width. -/
structure Shows (width n : Nat) (s : String) : Prop where
  length : s.length = width
  isDigit : ∀ c ∈ s.toList, c.isDigit = true
  value : Nat.ofDigitChars 10 s.toList 0 = n

/-- A text shows numbers one after another, each in so many digits and with a text behind it. -/
inductive ShowsAll : List (Nat × String) → List Nat → String → Prop
  | nil : ShowsAll [] [] ""
  | cons {width n : Nat} {after s t : String} {layout : List (Nat × String)} {ns : List Nat} :
    Shows width n s → ShowsAll layout ns t → ShowsAll ((width, after) :: layout) (n :: ns) (s ++ after ++ t)

/-! ## Order -/

theorem append_lt_append_iff {α : Type} [LT α] {a b s t : List α} (h : a.length = b.length) :
    a ++ s < b ++ t ↔ a < b ∨ a = b ∧ s < t := by
  induction a generalizing b with
  | nil =>
    obtain rfl := List.length_eq_zero_iff.1 h.symm
    simp
  | cons x a ih =>
    cases b with
    | nil => cases h
    | cons y b =>
      simp only [List.cons_append, List.cons_lt_cons_iff, List.cons.injEq, ih (Nat.succ.inj h)]
      tauto

/-- Of two numbers with as many further digits each, the less one comes first, or the one whose digits do. -/
theorem ofDigitChars_lt_iff {a b : List Char} {m n : Nat} (h : a.length = b.length)
    (ha : ∀ c ∈ a, c.isDigit = true) (hb : ∀ c ∈ b, c.isDigit = true) :
    Nat.ofDigitChars 10 a m < Nat.ofDigitChars 10 b n ↔ m < n ∨ m = n ∧ a < b := by
  induction a generalizing b m n with
  | nil =>
    obtain rfl := List.length_eq_zero_iff.1 h.symm
    simp
  | cons c a ih =>
    cases b with
    | nil => cases h
    | cons d b =>
      obtain ⟨hc, ha⟩ := List.forall_mem_cons.1 ha
      obtain ⟨hd, hb⟩ := List.forall_mem_cons.1 hb
      rw [Nat.ofDigitChars_cons, Nat.ofDigitChars_cons, ih (Nat.succ.inj h) ha hb, List.cons_lt_cons_iff,
        ← Char.toNat_inj, Char.lt_def, UInt32.lt_iff_toNat_lt]
      have hc : 48 ≤ c.toNat ∧ c.toNat ≤ 57 := Char.isDigit_iff_toNat.1 hc
      have hd : 48 ≤ d.toNat ∧ d.toNat ≤ 57 := Char.isDigit_iff_toNat.1 hd
      change 10 * m + (c.toNat - 48) < 10 * n + (d.toNat - 48) ∨
        10 * m + (c.toNat - 48) = 10 * n + (d.toNat - 48) ∧ a < b ↔
          m < n ∨ m = n ∧ (c.toNat < d.toNat ∨ c.toNat = d.toNat ∧ a < b)
      by_cases hab : a < b
      · simp only [hab, and_true]
        omega
      · simp only [hab, and_false, or_false]
        omega

theorem eq_iff_of_lt_iff {α β : Type} [LinearOrder α] [LinearOrder β] {a b : α} {c d : β} (h : a < b ↔ c < d)
    (h' : b < a ↔ d < c) : a = b ↔ c = d := by
  rw [le_antisymm_iff, ← not_lt, ← not_lt, h, h', not_lt, not_lt, le_antisymm_iff]

variable {width n n' : Nat} {s t : String} {layout : List (Nat × String)} {ns ms : List Nat}

namespace Shows

theorem lt_iff (h : Shows width n s) (h' : Shows width n' t) : s.toList < t.toList ↔ n < n' := by
  rw [← h.value, ← h'.value, ofDigitChars_lt_iff (h.length.trans h'.length.symm) h.isDigit h'.isDigit]
  simp

theorem eq_iff (h : Shows width n s) (h' : Shows width n' t) : s.toList = t.toList ↔ n = n' :=
  eq_iff_of_lt_iff (h.lt_iff h') (h'.lt_iff h)

/-- Every number has the width of its own numeral. -/
theorem of_repr (n : Nat) : Shows n.repr.length n n.repr where
  length := rfl
  isDigit c hc := by
    rw [Nat.toList_repr] at hc
    exact Nat.isDigit_of_mem_toDigits (by decide) (by decide) hc
  value := by rw [Nat.toList_repr, Nat.ofDigitChars_ten_toDigits]

/-- Zeros in front change nothing but the width. -/
theorem zeros (h : Shows width n s) (k : Nat) : Shows (k + width) n (String.ofList (List.replicate k '0') ++ s) where
  length := by simp [h.length]
  isDigit c hc := by
    rw [String.toList_append, String.toList_ofList, List.mem_append] at hc
    rcases hc with hc | hc
    · rw [List.eq_of_mem_replicate hc]
      rfl
    · exact h.isDigit c hc
  value := by
    rw [String.toList_append, String.toList_ofList, Nat.ofDigitChars_append, Nat.ofDigitChars_replicate_zero,
      Nat.mul_zero, h.value]

theorem of_digits (hw : 0 < width) (hn : n < 10 ^ width) : Shows width n (Calendar.digits width n) := by
  have hle := (Nat.length_repr_le_iff hw).2 hn
  have h := (of_repr n).zeros (width - n.repr.length)
  rwa [Nat.sub_add_cancel hle] at h

theorem of_repr_of_le (hlow : 10 ^ width ≤ n) (hhigh : n < 10 ^ (width + 1)) : Shows (width + 1) n n.repr := by
  have hlength : n.repr.length = width + 1 := by
    have hle := (Nat.length_repr_le_iff (Nat.succ_pos width)).2 hhigh
    have hpos := Nat.length_repr_pos (n := n)
    by_contra hne
    have hshort := (Nat.length_repr_le_iff (n := n) (k := width) (by omega)).1 (by omega)
    exact absurd hshort (Nat.not_lt.2 hlow)
  rw [← hlength]
  exact of_repr n

end Shows

namespace ShowsAll

theorem lt_iff (h : ShowsAll layout ns s) (h' : ShowsAll layout ms t) : s < t ↔ ns < ms := by
  induction h generalizing ms t with
  | nil =>
    cases h'
    simp
  | @cons width n after s rest layout ns hs _ ih =>
    cases h' with
    | @cons _ n' _ s' rest' _ ns' hs' hrest' =>
      rw [String.lt_iff, String.toList_append, String.toList_append, String.toList_append, String.toList_append,
        List.append_assoc, List.append_assoc, append_lt_append_iff (hs.length.trans hs'.length.symm),
        append_lt_append_iff rfl, hs.lt_iff hs', hs.eq_iff hs', List.cons_lt_cons_iff, ← ih hrest', String.lt_iff]
      simp

theorem eq_iff (h : ShowsAll layout ns s) (h' : ShowsAll layout ms t) : s = t ↔ ns = ms :=
  eq_iff_of_lt_iff (h.lt_iff h') (h'.lt_iff h)

end ShowsAll

end EntityGen.Text
