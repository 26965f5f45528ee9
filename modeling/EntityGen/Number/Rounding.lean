/-! Rounding a quotient of natural numbers to the nearest one. -/

namespace EntityGen.Number

/-- The nearest natural number to `num / den`; a half goes to the even neighbour. -/
def roundDiv (num den : Nat) : Nat :=
  let q := num / den
  let twice := 2 * (num % den)
  if twice < den || (twice = den && q % 2 = 0) then q else q + 1

theorem roundDiv_le (num den : Nat) : roundDiv num den ≤ num / den + 1 := by
  simp only [roundDiv]
  split <;> omega

theorem le_roundDiv (num den : Nat) : num / den ≤ roundDiv num den := by
  simp only [roundDiv]
  split <;> omega

theorem roundDiv_mul_self (n : Nat) {den : Nat} (h : 0 < den) : roundDiv (n * den) den = n := by
  simp [roundDiv, Nat.mul_div_cancel n h, h]

/-- The rounded quotient is at most half a unit away. -/
theorem roundDiv_near (num : Nat) {den : Nat} (h : 0 < den) :
    2 * (roundDiv num den * den) ≤ 2 * num + den ∧ 2 * num ≤ 2 * (roundDiv num den * den) + den := by
  have hsplit := Nat.div_add_mod num den
  have hlt := Nat.mod_lt num h
  rw [Nat.mul_comm] at hsplit
  simp only [roundDiv]
  split
  · next hc =>
    simp only [Bool.or_eq_true, Bool.and_eq_true, decide_eq_true_eq] at hc
    constructor <;> omega
  · next hc =>
    simp only [Bool.or_eq_true, Bool.and_eq_true, decide_eq_true_eq, not_or, not_and] at hc
    rw [Nat.add_mul, Nat.one_mul]
    constructor <;> omega

/-- Up to the middle between `k` and the next number a quotient is not rounded beyond `k`; the middle itself is not if
`k` is even. -/
theorem roundDiv_le_iff {num den k : Nat} (h : 0 < den) :
    roundDiv num den ≤ k ↔ 2 * num < (2 * k + 1) * den ∨ 2 * num = (2 * k + 1) * den ∧ k % 2 = 0 := by
  have hsplit := Nat.div_add_mod num den
  have hlt := Nat.mod_lt num h
  have hlow := le_roundDiv num den
  have hhigh := roundDiv_le num den
  rw [Nat.add_mul, Nat.mul_assoc, Nat.mul_comm k]
  rcases Nat.lt_trichotomy k (num / den) with hk | hk | hk
  · have hstep := Nat.mul_le_mul_left den (Nat.succ_le_of_lt hk)
    rw [Nat.mul_succ] at hstep
    omega
  · rw [hk, roundDiv]
    split
    · next hc =>
      simp only [Bool.or_eq_true, Bool.and_eq_true, decide_eq_true_eq] at hc
      omega
    · next hc =>
      simp only [Bool.or_eq_true, Bool.and_eq_true, decide_eq_true_eq] at hc
      omega
  · have hstep := Nat.mul_le_mul_left den (Nat.succ_le_of_lt hk)
    rw [Nat.mul_succ] at hstep
    omega

/-- Rounding keeps the order of quotients. -/
theorem roundDiv_le_roundDiv {a b c d : Nat} (hb : 0 < b) (hd : 0 < d) (h : a * d ≤ c * b) :
    roundDiv a b ≤ roundDiv c d := by
  have hc := (roundDiv_le_iff hd).1 (Nat.le_refl (roundDiv c d))
  rw [roundDiv_le_iff hb]
  generalize roundDiv c d = k at hc ⊢
  have hle : 2 * a * d ≤ 2 * c * b := by
    rw [Nat.mul_assoc, Nat.mul_assoc]
    exact Nat.mul_le_mul_left 2 h
  have hmove : (2 * k + 1) * d * b = (2 * k + 1) * b * d := Nat.mul_right_comm ..
  rcases hc with hc | ⟨hc, heven⟩
  · have hlt : 2 * a * d < (2 * k + 1) * b * d := by
      rw [← hmove]
      exact Nat.lt_of_le_of_lt hle (Nat.mul_lt_mul_of_pos_right hc hb)
    exact .inl (Nat.lt_of_mul_lt_mul_right hlt)
  · rw [hc, hmove] at hle
    exact (Nat.lt_or_eq_of_le (Nat.le_of_mul_le_mul_right hle hd)).imp_right (⟨·, heven⟩)

theorem roundDiv_eq_roundDiv {a b c d : Nat} (hb : 0 < b) (hd : 0 < d) (h : a * d = c * b) :
    roundDiv a b = roundDiv c d :=
  Nat.le_antisymm (roundDiv_le_roundDiv hb hd (Nat.le_of_eq h)) (roundDiv_le_roundDiv hd hb (Nat.le_of_eq h.symm))

theorem le_roundDiv_of_mul_le {num den k : Nat} (h : 0 < den) (hk : k * den ≤ num) : k ≤ roundDiv num den :=
  Nat.le_trans ((Nat.le_div_iff_mul_le h).2 hk) (le_roundDiv num den)

end EntityGen.Number
