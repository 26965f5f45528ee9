import EntityGen.Filter.Matcher
import EntityGen.Proofs.Glob
import EntityGen.Proofs.Pattern.Literal

/-! Where two kinds of patterns can say the same, they accept the same names. -/

namespace EntityGen.Matcher

variable {p q name : String}

theorem accepts_exact_iff : (exact p).accepts name ↔ name.toList = p.toList := by
  rw [accepts, decide_eq_true_eq, String.toList_inj]

theorem accepts_starts_iff : (starts p).accepts name ↔ p.toList <+: name.toList := List.isPrefixOf_iff_prefix

theorem accepts_ends_iff : (ends p).accepts name ↔ p.toList <:+ name.toList := List.isSuffixOf_iff_suffix

theorem accepts_contains_iff : (contains p).accepts name ↔ p.toList <:+: name.toList := by
  rw [accepts, occursIn_iff]
  simp only [List.IsInfix, eq_comm]

/-- A pattern that denotes a language makes a matcher for that language. -/
theorem exists_regexOf {is : Pattern.Sequence} {L : Language Char} (his : Pattern.Denotes is L)
    (hp : Pattern.parse p.toList = .ok (is, {})) :
    ∃ m, regexOf p = .ok m ∧ ∀ name, m.accepts name ↔ name.toList ∈ L := by
  obtain ⟨e, he, hmatch⟩ := his.exists_fullMatch_iff hp
  refine ⟨.regex p e, ?_, fun name => hmatch name.toList⟩
  rw [regexOf, he]

/-- A glob without marks of its own is the exact name, and with a star before or behind it a suffix, a prefix or
a part of the name; a regular expression of literal characters is the exact name, and with a bar either of
two. -/
theorem kinds_agree :
    (∀ p : String, (∀ c ∈ p.toList, Glob.IsPlain c) → ∀ name,
      ((glob p).accepts name ↔ (exact p).accepts name) ∧
      ((glob (p ++ "*")).accepts name ↔ (starts p).accepts name) ∧
      ((glob ("*" ++ p)).accepts name ↔ (ends p).accepts name) ∧
      ((glob ("*" ++ p ++ "*")).accepts name ↔ (contains p).accepts name)) ∧
    ∀ p q : String, (∀ c ∈ p.toList, Pattern.IsLiteral c) → (∀ c ∈ q.toList, Pattern.IsLiteral c) →
      ∃ one two, regexOf p = .ok one ∧ regexOf (p ++ "|" ++ q) = .ok two ∧ ∀ name,
        (one.accepts name ↔ (exact p).accepts name) ∧
        (two.accepts name ↔ (exact p).accepts name ∨ (exact q).accepts name) := by
  constructor
  · intro p hp name
    rw [accepts_exact_iff, accepts_starts_iff, accepts_ends_iff, accepts_contains_iff]
    simp only [accepts, String.toList_append]
    exact ⟨Glob.accepts_plain_iff hp, Glob.accepts_plain_star_iff hp, Glob.accepts_star_plain_iff hp,
      Glob.accepts_star_plain_star_iff hp⟩
  · intro p q hp hq
    obtain ⟨one, hone, hmatchone⟩ := exists_regexOf Pattern.denotes_literal (Pattern.parse_literal hp)
    have hpair : Pattern.parse (p ++ "|" ++ q).toList =
        .ok (Pattern.joinAlternatives [Pattern.literal p.toList, Pattern.literal q.toList], {}) := by
      have hbar : (p ++ "|" ++ q).toList = p.toList ++ '|' :: q.toList := by simp
      rw [hbar, Pattern.parse_pair hp hq]
    obtain ⟨two, htwo, hmatchtwo⟩ := exists_regexOf Pattern.denotes_joinAlternatives hpair
    refine ⟨one, two, hone, htwo, fun name => ?_⟩
    rw [hmatchone, hmatchtwo, accepts_exact_iff, accepts_exact_iff]
    exact ⟨Iff.rfl, Iff.rfl⟩

/-- A line break within the name stops none of the kinds. -/
theorem kinds_agree_line_break :
    (∀ c ∈ "a\nb".toList, Glob.IsPlain c ∧ Pattern.IsLiteral c) ∧
    (glob "*a\nb*").accepts "\na\nb\n" ∧
    ∃ m, regexOf "a\nb|" = .ok m ∧ m.accepts "a\nb" ∧ m.accepts "" ∧ ¬m.accepts "a\nb\n" := by
  have hplain : ∀ c ∈ "a\nb".toList, Glob.IsPlain c ∧ Pattern.IsLiteral c := by
    simp [Glob.IsPlain, Pattern.IsLiteral]
  obtain ⟨_, two, -, htwo, h⟩ := kinds_agree.2 "a\nb" "" (fun c hc => (hplain c hc).2) (by simp)
  refine ⟨hplain, ?_, two, htwo, ?_, ?_, ?_⟩
  · exact (kinds_agree.1 "a\nb" (fun c hc => (hplain c hc).1) "\na\nb\n").2.2.2.2 (by decide)
  · exact (h "a\nb").2.2 (by decide)
  · exact (h "").2.2 (by decide)
  · exact fun hm => absurd ((h "a\nb\n").2.1 hm) (by decide)

end EntityGen.Matcher
