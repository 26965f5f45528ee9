import Mathlib
import EntityGen.Path
import EntityGen.Text.Blank

/-! Texts that are cut: blanks off their ends, into pieces at a mark, and into the names of a path. -/

namespace EntityGen

namespace Text

/-! ## Blanks at the ends -/

section Trim

variable {s a b : List Char} {c : Char}

/-- No blank stands at either end of a text. -/
@[mk_iff]
structure Trimmed (s : List Char) : Prop where
  first : ∀ c ∈ s.head?, isBlank c = false
  last : ∀ c ∈ s.getLast?, isBlank c = false

instance : Decidable (Trimmed s) :=
  decidable_of_iff ((s.head?.all (!isBlank ·)) ∧ s.getLast?.all (!isBlank ·)) (by
    simp [trimmed_iff, Option.all_eq_true])

theorem trim_eq_rdropWhile (s : List Char) : trim s = (s.dropWhile isBlank).rdropWhile isBlank := rfl

theorem trim_append_of_blank (ha : a.all isBlank) : trim (a ++ s) = trim s := by
  rw [trim_eq_rdropWhile, List.dropWhile_append_of_pos (List.all_eq_true.1 ha), ← trim_eq_rdropWhile]

theorem trim_eq_nil_iff : trim s = [] ↔ s.all isBlank := by
  rw [List.all_eq_true, trim_eq_rdropWhile, List.rdropWhile_eq_nil_iff]
  constructor
  · intro h
    -- what is left after the first blanks would start with a character that is none
    by_contra hs
    have hne : s.dropWhile isBlank ≠ [] := fun hnil => hs (List.dropWhile_eq_nil_iff.1 hnil)
    have hhead := List.head_dropWhile_not isBlank hne
    rw [h _ (List.head_mem hne)] at hhead
    cases hhead
  · exact fun h c hc => h c ((List.dropWhile_sublist isBlank).mem hc)

theorem rdropWhile_append_of_pos {p : Char → Bool} (hb : ∀ c ∈ b, p c) :
    (s ++ b).rdropWhile p = s.rdropWhile p := by
  rw [List.rdropWhile, List.reverse_append, List.dropWhile_append_of_pos fun c hc => hb c (List.mem_reverse.1 hc)]
  rfl

theorem dropWhile_append_cons {p : Char → Bool} (h : p c = false) :
    (s ++ c :: b).dropWhile p = s.dropWhile p ++ c :: b := by
  induction s with
  | nil => exact List.dropWhile_cons_of_neg (by simp [h])
  | cons x s ih =>
    cases hx : p x with
    | false => simp [hx]
    | true => simpa [hx] using ih

theorem rdropWhile_append_cons {p : Char → Bool} (h : p c = false) :
    (s ++ c :: b).rdropWhile p = s ++ c :: b.rdropWhile p := by
  have hreverse : (s ++ c :: b).reverse = b.reverse ++ c :: s.reverse := by simp
  rw [List.rdropWhile, hreverse, dropWhile_append_cons h]
  simp [List.rdropWhile]

/-- A text has only one first character without a property, and so one part in front of it. -/
theorem eq_of_append_cons_eq {p : Char → Bool} {t v : List Char} (hs : ∀ x ∈ s, p x) (ht : ∀ x ∈ t, p x)
    (hc : p c = false) (h : s ++ c :: b = t ++ c :: v) : s = t ∧ b = v := by
  have hrest := congrArg (List.dropWhile p) h
  rw [dropWhile_append_cons hc, dropWhile_append_cons hc, List.dropWhile_eq_nil_iff.2 hs,
    List.dropWhile_eq_nil_iff.2 ht, List.nil_append, List.nil_append, List.cons.injEq] at hrest
  obtain ⟨-, rfl⟩ := hrest
  exact ⟨List.append_cancel_right h, rfl⟩

/-- What is no blank stays, and so does all that stands between it and another one. -/
theorem trim_append_cons (h : isBlank c = false) :
    trim (s ++ c :: b) = s.dropWhile isBlank ++ c :: b.rdropWhile isBlank := by
  rw [trim_eq_rdropWhile, dropWhile_append_cons h, rdropWhile_append_cons h]

theorem trim_append_blank (hb : b.all isBlank) : trim (s ++ b) = trim s := by
  by_cases hs : s.all isBlank
  · rw [trim_append_of_blank hs, trim_eq_nil_iff.2 hb, trim_eq_nil_iff.2 hs]
  · rw [List.all_eq_true, not_forall₂] at hs
    obtain ⟨c, hc, hblank⟩ := hs
    obtain ⟨u, v, rfl⟩ := List.append_of_mem hc
    rw [List.append_assoc, List.cons_append, trim_append_cons (Bool.eq_false_iff.2 hblank),
      trim_append_cons (Bool.eq_false_iff.2 hblank), rdropWhile_append_of_pos (List.all_eq_true.1 hb)]

theorem trimmed_trim (s : List Char) : Trimmed (trim s) where
  first := by
    intro c hc
    have hprefix : trim s <+: s.dropWhile isBlank := List.rdropWhile_prefix isBlank _
    obtain ⟨more, hmore⟩ := hprefix
    obtain ⟨rest, hrest⟩ := List.head?_eq_some_iff.1 hc
    have hne : s.dropWhile isBlank ≠ [] := by
      rw [← hmore, hrest]
      nofun
    have hhead : (s.dropWhile isBlank).head hne = c := by
      simp only [← hmore, hrest, List.cons_append, List.head_cons]
    rw [← hhead]
    exact List.head_dropWhile_not isBlank hne
  last := by
    intro c hc
    obtain ⟨hne, hlast⟩ := List.mem_getLast?_eq_getLast hc
    rw [hlast]
    exact Bool.eq_false_iff.2 (List.rdropWhile_last_not isBlank _ hne)

theorem Trimmed.trim_eq (h : Trimmed s) : trim s = s := by
  have hfirst : s.dropWhile isBlank = s := by
    cases s with
    | nil => rfl
    | cons c rest => exact List.dropWhile_cons_of_neg (by simp [h.first c rfl])
  rw [trim_eq_rdropWhile, hfirst, List.rdropWhile_eq_self_iff]
  intro hne
  rw [h.last _ (List.getLast?_eq_some_getLast hne)]
  exact Bool.false_ne_true

theorem trim_surrounded (ha : a.all isBlank) (hs : Trimmed s) (hb : b.all isBlank) : trim (a ++ s ++ b) = s := by
  rw [trim_append_blank hb, trim_append_of_blank ha, hs.trim_eq]

theorem mem_of_mem_trim (h : c ∈ trim s) : c ∈ s :=
  (List.dropWhile_sublist isBlank).mem ((List.rdropWhile_prefix isBlank _).mem h)

end Trim

/-! ## Pieces -/

section Pieces

variable {α : Type} {a : α} {sep : List α} {parts : List (List α)}

theorem mem_of_mem_intercalate (h : a ∈ sep.intercalate parts) : a ∈ sep ∨ ∃ part ∈ parts, a ∈ part := by
  induction parts with
  | nil =>
    rw [List.intercalate_nil] at h
    cases h
  | cons part parts ih =>
    cases parts with
    | nil =>
      rw [List.intercalate_singleton] at h
      exact .inr ⟨part, List.mem_singleton_self part, h⟩
    | cons next parts =>
      rw [List.intercalate_cons_cons, List.mem_append, List.mem_append] at h
      rcases h with (h | h) | h
      · exact .inr ⟨part, List.mem_cons_self, h⟩
      · exact .inl h
      · refine (ih h).imp_right ?_
        rintro ⟨other, hother, h⟩
        exact ⟨other, List.mem_cons_of_mem part hother, h⟩

theorem mem_intercalate {part : List α} (hpart : part ∈ parts) (h : a ∈ part) : a ∈ sep.intercalate parts := by
  induction parts with
  | nil => cases hpart
  | cons first parts ih =>
    cases parts with
    | nil =>
      rw [List.intercalate_singleton]
      rwa [List.mem_singleton.1 hpart] at h
    | cons next parts =>
      rw [List.intercalate_cons_cons, List.mem_append]
      rcases List.mem_cons.1 hpart with rfl | hpart
      · exact .inl (List.mem_append_left _ h)
      · exact .inr (ih hpart)

variable [DecidableEq α] {mark : α} {s piece : List α}

theorem mem_of_mem_splitOn (hpiece : piece ∈ s.splitOn mark) (h : a ∈ piece) : a ∈ s := by
  have hs : [mark].intercalate (s.splitOn mark) = s := List.intercalate_splitOn mark
  rw [← hs]
  exact mem_intercalate hpiece h

theorem notMem_of_mem_splitOn (h : piece ∈ s.splitOn mark) : mark ∉ piece := by
  induction s generalizing piece with
  | nil =>
    cases List.mem_singleton.1 h
    exact List.not_mem_nil
  | cons c s ih =>
    rw [List.splitOn_cons_eq_if_modifyHead] at h
    split at h
    · rcases List.mem_cons.1 h with rfl | h
      · exact List.not_mem_nil
      · exact ih h
    · next hc =>
      obtain ⟨first, rest, hsplit⟩ := List.exists_cons_of_ne_nil (List.splitOn_ne_nil mark s)
      rw [hsplit] at h ih
      rcases List.mem_cons.1 h with rfl | h
      · rw [List.mem_cons, not_or]
        exact ⟨fun heq => hc (by simp [heq]), ih List.mem_cons_self⟩
      · exact ih (List.mem_cons_of_mem first h)

/-- A piece goes as far as the next mark, so all else is in some piece. -/
theorem exists_mem_splitOn (h : a ∈ s) (ha : a ≠ mark) : ∃ piece ∈ s.splitOn mark, a ∈ piece := by
  have hs : [mark].intercalate (s.splitOn mark) = s := List.intercalate_splitOn mark
  rw [← hs] at h
  exact (mem_of_mem_intercalate h).resolve_left fun hmark => ha (List.mem_singleton.1 hmark)

theorem splitOn_intercalate_eq_flatMap (h : parts ≠ []) :
    ([mark].intercalate parts).splitOn mark = parts.flatMap (·.splitOn mark) := by
  induction parts with
  | nil => exact absurd rfl h
  | cons part parts ih =>
    cases parts with
    | nil => simp
    | cons next parts =>
      rw [List.intercalate_cons_cons, List.append_assoc, List.singleton_append, List.splitOn_append_cons_self,
        ih (List.cons_ne_nil next parts)]
      rfl

end Pieces

end Text

namespace Path

theorem namesOf_ne_nil {s : List Char} {x : Char} (hx : x ∈ s) (hslash : x ≠ '/') (hdot : x ≠ '.') :
    namesOf s ≠ [] := by
  obtain ⟨part, hpart, h⟩ := Text.exists_mem_splitOn hx hslash
  -- The part with the character is neither empty nor a dot.
  have hname : isName part = true := by
    have hne : part ≠ [] := List.ne_nil_of_mem h
    have hne' : part ≠ ['.'] := by
      rintro rfl
      exact hdot (List.mem_singleton.1 h)
    simp [isName, hne, hne']
  have hmem : String.ofList part ∈ namesOf s := List.mem_map_of_mem (List.mem_filter.2 ⟨hpart, hname⟩)
  exact List.ne_nil_of_mem hmem

end Path

end EntityGen
