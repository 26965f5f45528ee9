/-! Blanks and line ends. -/

namespace EntityGen.Text

/-- White space, the four information separators included. -/
def isBlank (c : Char) : Bool :=
  let n := c.toNat
  (9 ≤ n && n ≤ 13) || (28 ≤ n && n ≤ 32) || n = 0x85 || n = 0xA0 || n = 0x1680 ||
    (0x2000 ≤ n && n ≤ 0x200A) || n = 0x2028 || n = 0x2029 || n = 0x202F || n = 0x205F || n = 0x3000

/-- The characters that end a line. -/
def isLineEnd (c : Char) : Bool :=
  let n := c.toNat
  (10 ≤ n && n ≤ 13) || (28 ≤ n && n ≤ 30) || n = 0x85 || n = 0x2028 || n = 0x2029

theorem isBlank_of_isLineEnd {c : Char} (h : isLineEnd c = true) : isBlank c = true := by
  simp only [isLineEnd, isBlank, Bool.or_eq_true, Bool.and_eq_true, decide_eq_true_eq] at h ⊢
  omega

/-- The text without the characters of a class at its end. -/
def dropEnd (p : Char → Bool) (s : List Char) : List Char :=
  (s.reverse.dropWhile p).reverse

/-- The text without the blanks at its two ends. -/
def trim (s : List Char) : List Char :=
  dropEnd isBlank (s.dropWhile isBlank)

@[simp] theorem dropEnd_nil (p : Char → Bool) : dropEnd p [] = [] := rfl

theorem dropEnd_append_of_neg {p : Char → Bool} {c : Char} (s : List Char) (h : p c = false) :
    dropEnd p (s ++ [c]) = s ++ [c] := by
  simp [dropEnd, h]

theorem dropEnd_append_of_pos {p : Char → Bool} {c : Char} (s : List Char) (h : p c = true) :
    dropEnd p (s ++ [c]) = dropEnd p s := by
  simp [dropEnd, h]

@[simp] theorem trim_nil : trim [] = [] := rfl

end EntityGen.Text
