import Mathlib.Algebra.Group.Nat.Defs
import EntityGen.Number.Numeral

/-! Which texts are numbers to a base, and how large they can be. -/

namespace EntityGen.Number

/-- A digit of numbers to a base. -/
def isDigitOf (base : Nat) (c : Char) : Bool := (digitOf? c).any (· < base)

theorem isDigitOf_ten (c : Char) : isDigitOf 10 c = c.isDigit := by
  rw [isDigitOf, digitOf?]
  split
  · next h =>
    have hlt : c.toNat - '0'.toNat < 10 := by
      simp only [Char.isDigit, Bool.and_eq_true, decide_eq_true_eq, UInt32.le_iff_toNat_le] at h
      have hle : c.toNat ≤ 57 := h.2
      exact Nat.lt_succ_of_le (Nat.sub_le_sub_right hle 48)
    rw [h, Option.any_some, decide_eq_true hlt]
  · next h =>
    rw [Bool.eq_false_iff.2 h]
    split
    · simp
    · split <;> simp

theorem exists_readDigits_iff {base n : Nat} {cs : List Char} :
    (∃ m, readDigits base n cs = some m) ↔ ∀ c ∈ cs, isDigitOf base c = true := by
  induction cs generalizing n with
  | nil => simp [readDigits]
  | cons c cs ih =>
    rw [readDigits, List.forall_mem_cons, isDigitOf]
    cases digitOf? c with
    | none => simp
    | some d =>
      by_cases hd : d < base
      · simp [hd, ih]
      · simp [hd]

theorem exists_natOfDigits?_iff {base : Nat} {cs : List Char} :
    (∃ m, natOfDigits? base cs = some m) ↔ cs ≠ [] ∧ ∀ c ∈ cs, isDigitOf base c = true := by
  rw [natOfDigits?]
  cases cs with
  | nil => simp
  | cons c cs => simp [-List.mem_cons, exists_readDigits_iff]

theorem readDigits_lt {base n m k : Nat} {cs : List Char} (h : readDigits base n cs = some m)
    (hn : n < base ^ k) : m < base ^ (k + cs.length) := by
  induction cs generalizing n k with
  | nil =>
    cases h
    exact hn
  | cons c cs ih =>
    simp only [readDigits] at h
    split at h
    · split at h
      · next d _ hd =>
        have hnext : n * base + d < base ^ (k + 1) :=
          calc n * base + d < n * base + base := Nat.add_lt_add_left hd _
            _ = (n + 1) * base := (Nat.succ_mul n base).symm
            _ ≤ base ^ k * base := Nat.mul_le_mul_right base hn
            _ = base ^ (k + 1) := (Nat.pow_succ ..).symm
        have hlen : k + (c :: cs).length = k + 1 + cs.length := by simp only [List.length_cons]; omega
        rw [hlen]
        exact ih h hnext
      · cases h
    · cases h

theorem natOfDigits?_lt {base m : Nat} {cs : List Char} (h : natOfDigits? base cs = some m) :
    m < base ^ cs.length := by
  unfold natOfDigits? at h
  split at h
  · cases h
  · have hm := readDigits_lt (k := 0) h (by simp)
    rwa [Nat.zero_add] at hm

end EntityGen.Number
