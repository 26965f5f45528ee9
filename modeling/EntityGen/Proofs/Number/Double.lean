import Mathlib
import EntityGen.Number.Fixed

/-! Doubles as rational numbers: a quotient becomes the number itself where that has a double, and is not rounded down
past a number that has one. -/

namespace EntityGen.Number

variable {i k n num den places : Nat} {e f : Int} {x : Double} {p q : ℚ}

theorem abs_roundDiv_sub_le (num : Nat) (hden : 0 < den) : |(roundDiv num den - num / den : ℚ)| ≤ 1 / 2 := by
  have hpos : (0 : ℚ) < den := Nat.cast_pos.2 hden
  obtain ⟨hhigh, hlow⟩ := roundDiv_near num hden
  have hhigh : (2 * (roundDiv num den * den) : ℚ) ≤ 2 * num + den := by exact_mod_cast hhigh
  have hlow : (2 * num : ℚ) ≤ 2 * (roundDiv num den * den) + den := by exact_mod_cast hlow
  have hscaled : (roundDiv num den - num / den : ℚ) = (roundDiv num den * den - num) / den := by field_simp
  rw [hscaled, abs_div, abs_of_pos hpos, div_le_iff₀ hpos, abs_sub_le_iff]
  constructor
  · linarith
  · linarith

namespace Double

/-! ## Quotients -/

theorem two_zpow_of_nonneg (h : 0 ≤ e) : (2 : ℚ) ^ e.toNat = 2 ^ e := by
  rw [← zpow_natCast, Int.toNat_of_nonneg h]

theorem two_zpow_of_neg (h : ¬ 0 ≤ e) : (2 : ℚ) ^ (-e).toNat = (2 ^ e)⁻¹ := by
  rw [← zpow_natCast, Int.toNat_of_nonneg (by omega), zpow_neg]

theorem ratio_pos (m : Nat) (e : Int) : 0 < (ratio m e).2 := by
  unfold ratio
  split <;> simp

theorem ratio_eq (m : Nat) (e : Int) : ((ratio m e).1 : ℚ) / (ratio m e).2 = m * 2 ^ e := by
  unfold ratio
  split
  · next h => simp [two_zpow_of_nonneg h]
  · next h => simp [two_zpow_of_neg h]

theorem ratio_shrink (m : Nat) (e : Int) :
    ((ratio m e).1 : ℚ) / ((ratio m e).2 * 1024 : Nat) = m * 2 ^ e / 1024 := by
  push_cast
  rw [← div_div, ratio_eq]

theorem scaled_pos (h : 0 < den) (num : Nat) (e : Int) : 0 < (scaled num den e).2 := by
  unfold scaled
  split
  · exact Nat.mul_pos h (Nat.two_pow_pos _)
  · exact h

theorem scaled_eq (num den : Nat) (e : Int) :
    ((scaled num den e).1 : ℚ) / (scaled num den e).2 = num / den / 2 ^ e := by
  unfold scaled
  split
  · next h => simp [two_zpow_of_nonneg h, div_div]
  · next h => simp [two_zpow_of_neg h, div_eq_mul_inv, mul_right_comm]

/-! ## Values -/

/-- The double is the number `q` and has no sign. -/
def Is (x : Double) (q : ℚ) : Prop := ∃ (m : Nat) (e : Int), x = .finite false m e ∧ m * 2 ^ e = q

/-- The double has no sign and is not below `q`; it may be beyond all numbers. -/
def IsAtLeast (x : Double) (q : ℚ) : Prop := x = .infinite false ∨ ∃ r, q ≤ r ∧ x.Is r

/-- Some double is the number. -/
def HasDouble (q : ℚ) : Prop :=
  ∃ (k : Nat) (f : Int), k < 2 ^ 53 ∧ leastExponent ≤ f ∧ f ≤ greatestExponent ∧ q = k * 2 ^ f

theorem hasDouble_div (hk : k < 2 ^ 53) (hi : i ≤ 1074) : HasDouble (k / 2 ^ i) := by
  refine ⟨k, -i, hk, ?_, ?_, ?_⟩
  · rw [leastExponent]
    omega
  · rw [greatestExponent]
    omega
  · rw [zpow_neg, zpow_natCast, div_eq_mul_inv]

theorem hasDouble_natCast (hk : k < 2 ^ 53) : HasDouble k := by
  have h := hasDouble_div hk (Nat.zero_le 1074)
  rwa [pow_zero, div_one] at h

theorem Is.ltNat_iff (h : x.Is q) : x.ltNat n = true ↔ q < n := by
  obtain ⟨m, e, rfl, rfl⟩ := h
  have hpos : (0 : ℚ) < (ratio m e).2 := Nat.cast_pos.2 (ratio_pos m e)
  rw [← ratio_eq, div_lt_iff₀ hpos]
  simp only [ltNat, Bool.false_and, Bool.or_false, decide_eq_true_eq]
  exact_mod_cast Iff.rfl

theorem IsAtLeast.mono (h : x.IsAtLeast q) (hp : p ≤ q) : x.IsAtLeast p :=
  h.imp_right fun ⟨r, hr, hx⟩ => ⟨r, hp.trans hr, hx⟩

theorem IsAtLeast.ltNat (h : x.IsAtLeast n) : x.ltNat n = false := by
  rcases h with rfl | ⟨r, hr, hx⟩
  · rfl
  · exact Bool.eq_false_iff.2 fun hlt => hr.not_gt (hx.ltNat_iff.1 hlt)

/-- The number decides how it is written, not how it is stored. -/
theorem Is.fixed_eq (h : x.Is q) (hden : 0 < den) (hq : q = num / den) :
    x.fixed places = withPoint places (roundDiv (num * 10 ^ places) den) := by
  obtain ⟨m, e, rfl, hx⟩ := h
  have hpos := ratio_pos m e
  have hcross : (ratio m e).1 * den = num * (ratio m e).2 := by
    rw [← hx, ← ratio_eq, div_eq_div_iff (Nat.cast_ne_zero.2 hpos.ne') (Nat.cast_ne_zero.2 hden.ne')] at hq
    exact_mod_cast hq
  have hround : roundDiv ((ratio m e).1 * 10 ^ places) (ratio m e).2 = roundDiv (num * 10 ^ places) den := by
    refine roundDiv_eq_roundDiv hpos hden ?_
    rw [Nat.mul_right_comm, hcross, Nat.mul_right_comm]
  simp [fixed, hround]

/-! ## The nearest double -/

section Nearest

variable (hnum : num ≠ 0) (hden : 0 < den)

include hnum hden in
theorem quotient_bounds :
    (2 : ℚ) ^ ((num.log2 : Int) - den.log2 - 1) < num / den ∧
      (num / den : ℚ) < 2 ^ ((num.log2 : Int) - den.log2 + 1) := by
  have hden' : den ≠ 0 := hden.ne'
  have hpos : (0 : ℚ) < den := Nat.cast_pos.2 hden
  have hnumLow : (2 : ℚ) ^ (num.log2 : Int) ≤ num := by exact_mod_cast Nat.log2_self_le hnum
  have hnumHigh : (num : ℚ) < 2 ^ ((num.log2 : Int) + 1) := by exact_mod_cast Nat.lt_log2_self (n := num)
  have hdenLow : (2 : ℚ) ^ (den.log2 : Int) ≤ den := by exact_mod_cast Nat.log2_self_le hden'
  have hdenHigh : (den : ℚ) < 2 ^ ((den.log2 : Int) + 1) := by exact_mod_cast Nat.lt_log2_self (n := den)
  rw [lt_div_iff₀ hpos, div_lt_iff₀ hpos]
  constructor
  · calc (2 : ℚ) ^ ((num.log2 : Int) - den.log2 - 1) * den
        < 2 ^ ((num.log2 : Int) - den.log2 - 1) * 2 ^ ((den.log2 : Int) + 1) := by gcongr
      _ = 2 ^ (num.log2 : Int) := by
        rw [← zpow_add₀ two_ne_zero]
        congr 1
        ring
      _ ≤ num := hnumLow
  · calc (num : ℚ) < 2 ^ ((num.log2 : Int) + 1) := hnumHigh
      _ = 2 ^ ((num.log2 : Int) - den.log2 + 1) * 2 ^ (den.log2 : Int) := by
        rw [← zpow_add₀ two_ne_zero]
        congr 1
        ring
      _ ≤ 2 ^ ((num.log2 : Int) - den.log2 + 1) * den := by gcongr

theorem scaled_lt_iff (hden : 0 < den) :
    (scaled num den e).1 < (scaled num den e).2 * Nat.pow 2 52 ↔ (num / den : ℚ) < 2 ^ (e + 52) := by
  have hpos : (0 : ℚ) < (scaled num den e).2 := Nat.cast_pos.2 (scaled_pos hden num e)
  have hpow : (0 : ℚ) < 2 ^ e := zpow_pos two_pos e
  rw [← Nat.cast_lt (α := ℚ), Nat.pow_eq, Nat.cast_mul, ← div_lt_iff₀' hpos, scaled_eq, div_lt_iff₀' hpow,
    zpow_add₀ two_ne_zero]
  norm_num

include hnum hden in
/-- With this exponent the mantissa has 53 bits, unless the exponent would be too small. -/
theorem exponentFor_eq_max :
    ∃ e, exponentFor num den = max leastExponent e ∧ (2 : ℚ) ^ (e + 52) ≤ num / den ∧ (num / den : ℚ) < 2 ^ (e + 53) := by
  obtain ⟨hlow, hhigh⟩ := quotient_bounds hnum hden
  simp only [exponentFor, scaled_lt_iff hden]
  refine ⟨_, rfl, ?_⟩
  split
  · next h =>
    constructor
    · refine le_trans (le_of_eq ?_) hlow.le
      congr 1
      ring
    · refine h.trans_eq ?_
      congr 1
      ring
  · next h =>
    refine ⟨not_lt.1 h, hhigh.trans_eq ?_⟩
    congr 1
    ring

include hnum hden in
theorem quotient_lt : (num / den : ℚ) < 2 ^ (exponentFor num den + 53) := by
  obtain ⟨e, he, -, hhigh⟩ := exponentFor_eq_max hnum hden
  refine hhigh.trans_le (zpow_le_zpow_right₀ one_le_two ?_)
  omega

include hnum hden in
theorem le_quotient (h : leastExponent < exponentFor num den) :
    (2 : ℚ) ^ (exponentFor num den + 52) ≤ num / den := by
  obtain ⟨e, he, hlow, -⟩ := exponentFor_eq_max hnum hden
  obtain rfl : exponentFor num den = e := by omega
  exact hlow

/-- The rounded mantissa for the exponent. -/
def mantissaFor (num den : Nat) : Nat :=
  roundDiv (scaled num den (exponentFor num den)).1 (scaled num den (exponentFor num den)).2

include hnum in
/-- A mantissa that is rounded up to 54 bits is stored as half of it, with the next exponent. -/
theorem ofRatio_eq_or :
    (ofRatio false num den).Is (mantissaFor num den * 2 ^ exponentFor num den) ∨
      ofRatio false num den = .infinite false ∧
        (greatestExponent < exponentFor num den ∨ mantissaFor num den = 2 ^ 53) := by
  rw [ofRatio, if_neg hnum]
  extract_lets e
  split
  next n d hscaled =>
  extract_lets m
  have hm : mantissaFor num den = m := by rw [mantissaFor, hscaled]
  rw [hm]
  split
  next stored place hstored =>
  split at hstored
  · next hcarry =>
    cases hstored
    split
    · exact .inr ⟨rfl, .inr hcarry⟩
    · refine .inl ⟨_, _, rfl, ?_⟩
      rw [hcarry, zpow_add₀ two_ne_zero, Nat.pow_eq, Nat.pow_eq]
      push_cast
      ring
  · cases hstored
    split
    · next hlarge => exact .inr ⟨rfl, .inl hlarge⟩
    · exact .inl ⟨_, _, rfl, rfl⟩

/-! ### Numbers that have a double -/

theorem mul_two_zpow (h : e ≤ f) : (k * 2 ^ f : ℚ) = (k * 2 ^ (f - e).toNat : Nat) * 2 ^ e := by
  push_cast
  rw [two_zpow_of_nonneg (by omega), mul_assoc, ← zpow_add₀ two_ne_zero, sub_add_cancel]

include hden in
theorem le_mantissaFor (h : k * 2 ^ exponentFor num den ≤ (num / den : ℚ)) : k ≤ mantissaFor num den := by
  have hpos := scaled_pos hden num (exponentFor num den)
  rw [← le_div_iff₀ (zpow_pos two_pos _), ← scaled_eq, le_div_iff₀ (Nat.cast_pos.2 hpos)] at h
  exact le_roundDiv_of_mul_le hpos (by exact_mod_cast h)

include hden in
theorem mantissaFor_eq (h : (num / den : ℚ) = k * 2 ^ exponentFor num den) : mantissaFor num den = k := by
  have hpos := scaled_pos hden num (exponentFor num den)
  rw [← div_eq_iff (zpow_ne_zero _ two_ne_zero), ← scaled_eq, div_eq_iff (Nat.cast_ne_zero.2 hpos.ne')] at h
  have hwhole : (scaled num den (exponentFor num den)).1 = k * (scaled num den (exponentFor num den)).2 := by
    exact_mod_cast h
  rw [mantissaFor, hwhole, roundDiv_mul_self k hpos]

theorem ofRatio_zero (den : Nat) : (ofRatio false 0 den).Is 0 := ⟨0, leastExponent, rfl, by simp⟩

theorem mul_two_zpow_lt (hk : k < 2 ^ 53) (f : Int) : (k * 2 ^ f : ℚ) < 2 ^ (f + 53) := by
  have hcast : (k : ℚ) < 2 ^ (53 : Int) := by exact_mod_cast hk
  rw [add_comm, zpow_add₀ two_ne_zero]
  gcongr

include hden in
/-- A quotient that has a double becomes this double. -/
theorem ofRatio_is (h : HasDouble (num / den)) : (ofRatio false num den).Is (num / den) := by
  obtain ⟨k, f, hk, hf, hmax, h⟩ := h
  rcases Nat.eq_zero_or_pos num with rfl | hnum
  · simpa using ofRatio_zero den
  -- The last place of the quotient is not before that of the number, or the number would have too many bits.
  have he : exponentFor num den ≤ f := by
    by_contra hlt
    have hlow := le_quotient hnum.ne' hden (by omega)
    rw [h] at hlow
    have hexponents := (zpow_lt_zpow_iff_right₀ one_lt_two).1 (hlow.trans_lt (mul_two_zpow_lt hk f))
    omega
  rw [mul_two_zpow he] at h
  have hmantissa := mantissaFor_eq hden h
  have hlt : mantissaFor num den < 2 ^ 53 := by
    have hhigh := quotient_lt hnum.ne' hden
    rw [h, ← hmantissa, add_comm, zpow_add₀ two_ne_zero, mul_lt_mul_iff_left₀ (zpow_pos two_pos _)] at hhigh
    exact_mod_cast hhigh
  rcases ofRatio_eq_or hnum.ne' with his | ⟨-, hlarge | hcarry⟩
  · rwa [h, ← hmantissa]
  · omega
  · omega

include hden in
/-- Rounding takes a quotient no further down than to the next number that has a double. -/
theorem ofRatio_isAtLeast (hq : HasDouble q) (h : q ≤ num / den) : (ofRatio false num den).IsAtLeast q := by
  obtain ⟨k, f, hk, hf, -, rfl⟩ := hq
  rcases Nat.eq_zero_or_pos num with rfl | hnum
  · refine .inr ⟨0, ?_, ofRatio_zero den⟩
    simpa using h
  rcases ofRatio_eq_or hnum.ne' with his | ⟨hinfinite, -⟩
  · refine .inr ⟨_, ?_, his⟩
    by_cases he : exponentFor num den ≤ f
    · rw [mul_two_zpow he] at h ⊢
      have hmantissa := le_mantissaFor hden h
      gcongr
    · -- The quotient has all its bits before the last place of the number.
      have hlow := le_quotient hnum.ne' hden (by omega)
      have hmantissa : 2 ^ 52 ≤ mantissaFor num den := by
        refine le_mantissaFor hden ?_
        rwa [add_comm, zpow_add₀ two_ne_zero] at hlow
      calc (k * 2 ^ f : ℚ) ≤ 2 ^ (f + 53) := (mul_two_zpow_lt hk f).le
        _ ≤ 2 ^ (exponentFor num den + 52) := zpow_le_zpow_right₀ one_le_two (by omega)
        _ = (2 ^ 52 : Nat) * 2 ^ exponentFor num den := by
          rw [add_comm, zpow_add₀ two_ne_zero]
          norm_num
        _ ≤ mantissaFor num den * 2 ^ exponentFor num den := by gcongr
  · exact .inl hinfinite

end Nearest

/-! ## Division by `2 ^ 10` -/

theorem Is.shrink (h : x.Is q) (hq : HasDouble (q / 1024)) : x.shrink.Is (q / 1024) := by
  obtain ⟨m, e, rfl, rfl⟩ := h
  rw [← ratio_shrink] at hq ⊢
  exact ofRatio_is (Nat.mul_pos (ratio_pos m e) (by decide)) hq

theorem IsAtLeast.shrink (h : x.IsAtLeast q) (hq : HasDouble (q / 1024)) : x.shrink.IsAtLeast (q / 1024) := by
  rcases h with rfl | ⟨r, hr, m, e, rfl, rfl⟩
  · exact .inl rfl
  · have hquotient : q / 1024 ≤ (ratio m e).1 / ((ratio m e).2 * 1024 : Nat) := by
      rw [ratio_shrink]
      gcongr
    exact ofRatio_isAtLeast (Nat.mul_pos (ratio_pos m e) (by decide)) hq hquotient

end Double
end EntityGen.Number
