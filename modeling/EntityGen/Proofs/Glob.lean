import EntityGen.Glob

/-! Globs that are made of plain characters and stars: which texts they accept. -/

namespace EntityGen.Glob

variable {p s : List Char} {g : Glob}

/-- A character that stands for itself. -/
def IsPlain (c : Char) : Prop := c ≠ '*' ∧ c ≠ '?' ∧ c ≠ '['

instance (c : Char) : Decidable (IsPlain c) := inferInstanceAs (Decidable (_ ∧ _))

/-! ## Reading -/

theorem parse_append (hp : ∀ c ∈ p, IsPlain c) (fuel : Nat) (after : List Char) :
    parse (p.length + fuel) (p ++ after) = p.map .char ++ parse fuel after := by
  induction p with
  | nil => simp
  | cons c p ih =>
    rw [List.forall_mem_cons] at hp
    obtain ⟨⟨hstar, hone, hset⟩, hp⟩ := hp
    have hfuel : (c :: p).length + fuel = p.length + fuel + 1 := by
      rw [List.length_cons]
      omega
    rw [hfuel, List.cons_append, parse, ih hp, List.map_cons, List.cons_append]
    all_goals assumption

theorem ofChars_plain (hp : ∀ c ∈ p, IsPlain c) : ofChars p = p.map .char := by
  have h := parse_append hp 0 []
  simpa [ofChars, parse] using h

theorem ofChars_plain_star (hp : ∀ c ∈ p, IsPlain c) : ofChars (p ++ ['*']) = p.map .char ++ [.star] := by
  have h := parse_append hp 1 ['*']
  simpa [ofChars, parse] using h

theorem ofChars_star (s : List Char) : ofChars ('*' :: s) = .star :: ofChars s := rfl

/-! ## Accepting -/

theorem anyEnd_iff {f : List Char → Bool} : anyEnd f s ↔ ∃ before after, s = before ++ after ∧ f after := by
  induction s with
  | nil => simp [anyEnd, and_assoc]
  | cons c s ih =>
    rw [anyEnd, Bool.or_eq_true, ih]
    constructor
    · rintro (h | ⟨before, after, rfl, h⟩)
      · exact ⟨[], c :: s, rfl, h⟩
      · exact ⟨c :: before, after, rfl, h⟩
    · rintro ⟨before, after, hs, h⟩
      cases before with
      | nil =>
        rw [hs]
        exact .inl h
      | cons d before =>
        rw [List.cons_append, List.cons.injEq] at hs
        exact .inr ⟨before, after, hs.2, h⟩

theorem fits_star_iff : fits (.star :: g) s ↔ ∃ before after, s = before ++ after ∧ fits g after :=
  anyEnd_iff

theorem fits_append_iff : fits (p.map .char ++ g) s ↔ ∃ after, s = p ++ after ∧ fits g after := by
  induction p generalizing s with
  | nil => simp
  | cons c p ih =>
    cases s with
    | nil => simp [fits]
    | cons d s =>
      simp only [List.map_cons, List.cons_append, fits, Bool.and_eq_true, ih, GlobPart.holds, decide_eq_true_eq,
        List.cons.injEq, and_assoc, exists_and_left]

theorem fits_nil_iff : fits [] s ↔ s = [] := List.isEmpty_iff

theorem fits_lone_star : fits [.star] s :=
  fits_star_iff.2 ⟨s, [], (List.append_nil s).symm, rfl⟩

theorem fits_plain_iff : fits (p.map .char) s ↔ s = p := by
  have h : fits (p.map .char ++ []) s ↔ ∃ after, s = p ++ after ∧ fits [] after := fits_append_iff
  simpa [fits_nil_iff] using h

theorem fits_plain_star_iff : fits (p.map .char ++ [.star]) s ↔ p <+: s := by
  rw [fits_append_iff]
  constructor
  · rintro ⟨after, rfl, _⟩
    exact ⟨after, rfl⟩
  · rintro ⟨after, rfl⟩
    exact ⟨after, rfl, fits_lone_star⟩

/-! ## The four forms -/

theorem accepts_plain_iff (hp : ∀ c ∈ p, IsPlain c) : (ofChars p).accepts s ↔ s = p := by
  rw [accepts_eq_fits, ofChars_plain hp, fits_plain_iff]

theorem accepts_plain_star_iff (hp : ∀ c ∈ p, IsPlain c) : (ofChars (p ++ ['*'])).accepts s ↔ p <+: s := by
  rw [accepts_eq_fits, ofChars_plain_star hp, fits_plain_star_iff]

theorem accepts_star_plain_iff (hp : ∀ c ∈ p, IsPlain c) : (ofChars ('*' :: p)).accepts s ↔ p <:+ s := by
  rw [accepts_eq_fits, ofChars_star, ofChars_plain hp, fits_star_iff]
  simp only [fits_plain_iff, exists_eq_right]
  exact ⟨fun ⟨before, h⟩ => ⟨before, h.symm⟩, fun ⟨before, h⟩ => ⟨before, h.symm⟩⟩

theorem accepts_star_plain_star_iff (hp : ∀ c ∈ p, IsPlain c) :
    (ofChars ('*' :: (p ++ ['*']))).accepts s ↔ p <:+: s := by
  rw [accepts_eq_fits, ofChars_star, ofChars_plain_star hp, fits_star_iff]
  simp only [fits_plain_star_iff]
  constructor
  · rintro ⟨before, _, rfl, after, rfl⟩
    exact ⟨before, after, List.append_assoc before p after⟩
  · rintro ⟨before, after, rfl⟩
    exact ⟨before, p ++ after, List.append_assoc before p after, List.prefix_append p after⟩

end EntityGen.Glob
