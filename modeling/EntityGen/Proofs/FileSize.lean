import EntityGen.FileSize
import EntityGen.Proofs.Number.Double
import EntityGen.Proofs.Text.Cutting
import EntityGen.Proofs.Text.Decimal

/-! Sizes as people read them: how far what is read is from the size, that a greater size is not read as less, and which
sizes are read as 1024 of a unit. -/

namespace EntityGen

open Number Text

namespace FileSize

/-- The units from the least to the greatest, each 1024 times the one before. -/
def scale : List String := units ++ [lastUnit]

/-- Tenths of a unit, which is `1024 ^ power` bytes. -/
@[ext]
structure Amount where
  tenths : Nat
  power : Nat

namespace Amount

def number (a : Amount) : ℚ := a.tenths / 10

def unit (a : Amount) : ℚ := 1024 ^ a.power

def bytes (a : Amount) : ℚ := a.number * a.unit

def unitName? (a : Amount) : Option String := scale[a.power]?

end Amount

/-- The text is a number with one decimal and the name of a unit behind it. -/
inductive Says : String → Amount → Prop
  | mk {width whole tenth : Nat} {s t name : String} {a : Amount} :
    Shows (width + 1) whole s → Shows 1 tenth t → a.tenths = 10 * whole + tenth → a.unitName? = some name →
      Says (s ++ "." ++ t ++ " " ++ name) a

variable {i k m n power tenths : Nat} {x : Double} {q : ℚ} {a b : Amount} {s t name : String} {us : List String}

/-! ## Texts -/

theorem withPoint_one (n : Nat) : withPoint 1 n = (n / 10).repr ++ "." ++ Calendar.digits 1 (n % 10) := by
  simp only [withPoint, Nat.pow_eq, Nat.pow_one, Nat.one_ne_zero, ↓reduceIte, Calendar.digits, String.append_assoc]
  rfl

theorem says_quantity (hname : scale[power]? = some name) :
    Says (withPoint 1 tenths ++ " " ++ name) ⟨tenths, power⟩ := by
  have hdigit : tenths % 10 < 10 ^ 1 := Nat.mod_lt _ (by decide)
  obtain ⟨width, hwidth⟩ := Nat.exists_eq_succ_of_ne_zero (Nat.length_repr_pos (n := tenths / 10)).ne'
  have hwhole := Shows.of_repr (tenths / 10)
  rw [hwidth] at hwhole
  rw [withPoint_one]
  exact .mk hwhole (.of_digits Nat.one_pos hdigit) (Nat.div_add_mod tenths 10).symm hname

theorem nodup_scale : scale.Nodup := by decide

theorem ne_blank_of_mem_scale (h : name ∈ scale) : ∀ c ∈ name.toList.reverse, decide (c ≠ ' ') = true := by
  have hblank : ∀ name ∈ scale, ' ' ∉ name.toList := by decide
  intro c hc
  rw [decide_eq_true_eq]
  rintro rfl
  exact hblank name h (List.mem_reverse.1 hc)

theorem Says.unique (h : Says s a) (h' : Says s b) : a = b := by
  generalize hst : s = t at h'
  obtain ⟨hwhole, htenth, htenths, hname⟩ := h
  obtain ⟨hwhole', htenth', htenths', hname'⟩ := h'
  have hlist := congrArg String.toList hst
  simp only [String.toList_append, List.append_assoc] at hlist
  obtain ⟨hs, hrest⟩ := eq_of_append_cons_eq hwhole.isDigit hwhole'.isDigit (by decide) hlist
  obtain ⟨ht, hrest⟩ := eq_of_append_cons_eq htenth.isDigit htenth'.isDigit (by decide) hrest
  rw [← String.toList_inj.1 hrest] at hname'
  obtain ⟨hlength, -⟩ := List.getElem?_eq_some_iff.1 hname
  ext
  · rw [htenths, htenths', ← hwhole.value, ← hwhole'.value, ← htenth.value, ← htenth'.value, hs, ht]
  · exact (List.getElem?_inj hlength nodup_scale).1 (hname.trans hname'.symm)

/-- Whatever stands in front of the last blank, the unit stands behind it. -/
theorem Says.unitName?_of_append (h : Says (s ++ " " ++ name) a) (hmem : name ∈ scale) : a.unitName? = some name := by
  generalize ht : s ++ " " ++ name = t at h
  obtain ⟨-, -, -, hname⟩ := h
  have hlist := congrArg (·.toList.reverse) ht
  simp only [String.toList_append, List.reverse_append, List.append_assoc] at hlist
  obtain ⟨hsame, -⟩ := eq_of_append_cons_eq (ne_blank_of_mem_scale hmem)
    (ne_blank_of_mem_scale (List.mem_of_getElem? hname)) (by decide) hlist
  rwa [String.toList_inj.1 (List.reverse_injective hsame)]

/-! ## The unit -/

theorem size_pos (k : Nat) : 0 < 1024 ^ k := Nat.pow_pos (by decide)

/-- A unit is used for less than 1024 of it, and the last one for all that is left. -/
def powerOf (n : Nat) : Nat := min 4 (Nat.log 1024 n)

theorem powerOf_le (n : Nat) : powerOf n ≤ 4 := min_le_left ..

theorem powerOf_le_powerOf (h : m ≤ n) : powerOf m ≤ powerOf n := min_le_min_left 4 (Nat.log_mono_right h)

theorem pow_powerOf_le (h : n ≠ 0) : 1024 ^ powerOf n ≤ n :=
  (Nat.pow_le_pow_right (by decide) (min_le_right ..)).trans (Nat.pow_log_le_self 1024 h)

theorem lt_of_powerOf_lt (h : powerOf n < 4) : n < 1024 ^ (powerOf n + 1) := by
  have hlog : powerOf n = Nat.log 1024 n := min_eq_right (by rw [powerOf] at h; omega)
  rw [hlog]
  exact Nat.lt_pow_succ_log_self (by decide) n

theorem powerOf_lt (h : n < 1024 ^ 4) : powerOf n < 4 := by
  rcases Nat.eq_zero_or_pos n with rfl | hn
  · decide
  · exact min_lt_of_right_lt ((Nat.log_lt_iff_lt_pow (by decide) hn.ne').2 h)

theorem powerOf_eq (h : 1024 ^ k ≤ n) (h' : n < 1024 ^ (k + 1)) (hk : k < 4) : powerOf n = k := by
  rw [powerOf, Nat.log_eq_of_pow_le_of_lt_pow h h']
  omega

/-! ## Amounts -/

/-- What is said of a size: the nearest tenth of its unit. -/
def Amount.ofBytes (n : Nat) : Amount := ⟨roundDiv (n * 10) (1024 ^ powerOf n), powerOf n⟩

theorem bytes_eq (a : Amount) : a.bytes = (a.tenths * 1024 ^ a.power : Nat) / 10 := by
  rw [Amount.bytes, Amount.number, Amount.unit]
  push_cast
  ring

theorem ofBytes_near (n : Nat) : |(Amount.ofBytes n).bytes - n| ≤ (Amount.ofBytes n).unit / 20 := by
  have hround := abs_roundDiv_sub_le (n * 10) (size_pos (powerOf n))
  have hunit : (0 : ℚ) < 1024 ^ powerOf n / 10 := by positivity
  rw [Amount.bytes, Amount.number, Amount.unit, Amount.ofBytes]
  push_cast at hround ⊢
  calc |(roundDiv (n * 10) (1024 ^ powerOf n) / 10 * 1024 ^ powerOf n - n : ℚ)|
      = |(roundDiv (n * 10) (1024 ^ powerOf n) - n * 10 / 1024 ^ powerOf n : ℚ)| * (1024 ^ powerOf n / 10) := by
        rw [← abs_of_pos hunit, ← abs_mul]
        congr 1
        field_simp
    _ ≤ 1 / 2 * (1024 ^ powerOf n / 10) := by gcongr
    _ = 1024 ^ powerOf n / 20 := by ring

/-- Nothing is said to be more than 1024 of its unit, … -/
theorem tenths_le (h : powerOf n < 4) : (Amount.ofBytes n).tenths ≤ 10240 := by
  have hn := lt_of_powerOf_lt h
  rw [Nat.pow_succ] at hn
  exact (roundDiv_le_iff (size_pos _)).2 (.inl (by omega))

/-- … nor less than one unit, save in the least one. -/
theorem le_tenths (h : powerOf n ≠ 0) : 10 ≤ (Amount.ofBytes n).tenths := by
  have hn : n ≠ 0 := by
    rintro rfl
    exact h rfl
  have hle := pow_powerOf_le hn
  exact le_roundDiv_of_mul_le (size_pos _) (by omega)

/-- A greater unit starts where the one before ends, so the rounded amounts meet there at most. -/
theorem ofBytes_le_ofBytes (h : m ≤ n) : (Amount.ofBytes m).bytes ≤ (Amount.ofBytes n).bytes := by
  rw [bytes_eq, bytes_eq]
  refine div_le_div_of_nonneg_right (Nat.cast_le.2 ?_) (by norm_num)
  rcases (powerOf_le_powerOf h).eq_or_lt with hpower | hpower
  · rw [Amount.ofBytes, Amount.ofBytes, hpower]
    refine Nat.mul_le_mul_right _ (roundDiv_le_roundDiv (size_pos _) (size_pos _) ?_)
    gcongr
  · have hlow := tenths_le (hpower.trans_le (powerOf_le n))
    have hhigh := le_tenths (Nat.ne_zero_of_lt hpower)
    calc (Amount.ofBytes m).tenths * 1024 ^ powerOf m ≤ 10240 * 1024 ^ powerOf m := by gcongr
      _ = 10 * 1024 ^ (powerOf m + 1) := by ring
      _ ≤ 10 * 1024 ^ powerOf n := by gcongr <;> omega
      _ ≤ (Amount.ofBytes n).tenths * 1024 ^ powerOf n := by gcongr

/-- The size is less than a unit, by no more than a twentieth of the unit before. -/
def FallsShort (n : Nat) : Prop := ∃ k < 4, n < 1024 ^ (k + 1) ∧ 20 * (1024 ^ (k + 1) - n) ≤ 1024 ^ k

theorem tenths_lt_iff (h : n < 1024 ^ 4) : (Amount.ofBytes n).tenths < 10240 ↔ ¬ FallsShort n := by
  have hpower := powerOf_lt h
  have hn := lt_of_powerOf_lt hpower
  have hround : (Amount.ofBytes n).tenths < 10240 ↔ 1024 ^ powerOf n < 20 * (1024 ^ (powerOf n + 1) - n) := by
    refine Nat.lt_succ_iff.trans ((roundDiv_le_iff (size_pos _)).trans ?_)
    rw [Nat.pow_succ] at hn ⊢
    omega
  rw [hround, iff_not_comm, not_lt]
  constructor
  · rintro ⟨k, hk, hlt, hshort⟩
    have hle : 1024 ^ k ≤ n := by
      rw [Nat.pow_succ] at hlt hshort
      omega
    rwa [powerOf_eq hle hlt hk]
  · intro hshort
    exact ⟨_, hpower, hn, hshort⟩

theorem number_ofBytes_lt_iff (h : n < 1024 ^ 4) : (Amount.ofBytes n).number < 1024 ↔ ¬ FallsShort n := by
  rw [← tenths_lt_iff h, Amount.number, div_lt_iff₀ (by norm_num)]
  norm_num

theorem number_ofBytes_of_fallsShort (h : n < 1024 ^ 4) (hshort : FallsShort n) : (Amount.ofBytes n).number = 1024 := by
  have hge := Nat.le_of_not_lt fun hlt => (tenths_lt_iff h).1 hlt hshort
  rw [Amount.number, le_antisymm (tenths_le (powerOf_lt h)) hge]
  norm_num

theorem unitName?_ofBytes_ne (h : n < 1024 ^ 4) : (Amount.ofBytes n).unitName? ≠ some lastUnit := by
  intro hlast
  have hpower : (Amount.ofBytes n).power = 4 :=
    (List.getElem?_inj (List.getElem?_eq_some_iff.1 hlast).1 nodup_scale).1 hlast
  exact absurd hpower (powerOf_lt h).ne

/-! ## Through the units -/

theorem finite?_of_is (h : x.Is q) : finite? x = .ok x := by
  obtain ⟨m, e, rfl, -⟩ := h
  rfl

theorem eq_of_finite? {y : Double} (h : finite? x = .ok y) : y = x := by
  unfold finite? at h
  split at h
  · cases h
  · cases h
    rfl

theorem quantity_of_is (h : x.Is (n / 1024 ^ i)) (name : String) :
    quantity x name = withPoint 1 (roundDiv (n * 10) (1024 ^ i)) ++ " " ++ name := by
  rw [quantity, h.fixed_eq (size_pos i) (by push_cast; rfl), Nat.pow_one]

/-- Below `2 ^ 53` bytes no division loses anything. -/
theorem hasDouble_of_lt (hn : n < 2 ^ 53) (hi : i ≤ 4) : Double.HasDouble (n / 1024 ^ i) := by
  have hpow : (1024 : ℚ) ^ i = 2 ^ (10 * i) := by
    rw [pow_mul]
    norm_num
  rw [hpow]
  exact Double.hasDouble_div hn (by omega)

theorem ofRatio_is_of_lt (hn : n < 2 ^ 53) (hi : i ≤ 4) : (Double.ofRatio false n (1024 ^ i)).Is (n / 1024 ^ i) := by
  have hdouble := hasDouble_of_lt hn hi
  have hcast : (1024 ^ i : ℚ) = (1024 ^ i : Nat) := by norm_cast
  rw [hcast] at hdouble ⊢
  exact Double.ofRatio_is (size_pos i) hdouble

/-- What has been divided so far is the size by the unit, and the logarithm of it tells how far there is to go. -/
theorem inUnits_of_is (hn : n < 2 ^ 53) (hi : i + us.length ≤ 4) (hx : x.Is (n / 1024 ^ i))
    (hname : (us ++ [lastUnit])[min us.length (Nat.log 1024 (n / 1024 ^ i))]? = some name) :
    inUnits us x =
      withPoint 1 (roundDiv (n * 10) (1024 ^ (i + min us.length (Nat.log 1024 (n / 1024 ^ i))))) ++ " " ++ name := by
  induction us generalizing x i with
  | nil =>
    rw [List.length_nil, Nat.zero_min] at hname ⊢
    cases hname
    exact quantity_of_is hx _
  | cons u us ih =>
    rw [List.length_cons] at hi hname ⊢
    have hlt : x.ltNat 1024 = true ↔ n / 1024 ^ i < 1024 := by
      rw [hx.ltNat_iff, div_lt_iff₀ (by positivity), Nat.div_lt_iff_lt_mul (size_pos i)]
      exact_mod_cast Iff.rfl
    rw [inUnits]
    split
    · next h =>
      rw [Nat.log_of_lt (hlt.1 h), Nat.min_zero] at hname ⊢
      cases hname
      exact quantity_of_is hx _
    · next h =>
      -- One unit further on there is one factor less to go.
      have hge := Nat.le_of_not_lt fun h' => h (hlt.2 h')
      have hlog : Nat.log 1024 (n / 1024 ^ i) = Nat.log 1024 (n / 1024 ^ (i + 1)) + 1 := by
        rw [Nat.log_of_one_lt_of_le (by decide) hge, Nat.div_div_eq_div_mul, Nat.pow_succ]
      have hquotient : (n / 1024 ^ i / 1024 : ℚ) = n / 1024 ^ (i + 1) := by rw [div_div, pow_succ]
      have hshrunk := hx.shrink (hquotient ▸ hasDouble_of_lt hn (by omega))
      rw [hquotient] at hshrunk
      rw [hlog, Nat.add_min_add_right] at hname ⊢
      rw [ih (by omega) hshrunk hname, Nat.add_right_comm i]
      rfl

/-- A counted size has the first unit, or it is divided once and goes through the others. -/
theorem text_count_of_lt (hn : n < 1024) :
    text (.count n) = (finite? (Double.ofRatio false n (1024 ^ 0))).map (quantity · "B") := by
  have hint : Double.ofInt n = Double.ofRatio false n 1 := by
    rw [Double.ofInt, decide_eq_false (by omega), Int.natAbs_natCast]
  rw [text, if_pos (by omega), hint, Nat.pow_zero]
  cases finite? (Double.ofRatio false n 1) <;> rfl

theorem text_count_of_le (hn : 1024 ≤ n) :
    text (.count n) = (finite? (Double.ofRatio false n (1024 ^ 1))).map (inUnits (units.drop 1)) := by
  rw [text, if_neg (by omega), Int.toNat_natCast, Nat.pow_one]
  cases finite? (Double.ofRatio false n 1024) <;> rfl

/-- What is printed is what is said of the size. -/
theorem exists_text_count (hn : n < 2 ^ 53) : ∃ s, text (.count n) = .ok s ∧ Says s (Amount.ofBytes n) := by
  have hlength : powerOf n < scale.length := (powerOf_le n).trans_lt (by decide)
  obtain ⟨name, hname⟩ : ∃ name, scale[powerOf n]? = some name := ⟨_, List.getElem?_eq_getElem hlength⟩
  refine ⟨_, ?_, says_quantity hname⟩
  rcases Nat.lt_or_ge n 1024 with hsmall | hlarge
  · have hx := ofRatio_is_of_lt hn (Nat.zero_le 4)
    have hpower : powerOf n = 0 := by rw [powerOf, Nat.log_of_lt hsmall, Nat.min_zero]
    rw [hpower] at hname ⊢
    cases hname
    rw [text_count_of_lt hsmall, finite?_of_is hx]
    exact congrArg Except.ok (quantity_of_is hx "B")
  · have hx := ofRatio_is_of_lt hn (by decide : 1 ≤ 4)
    have hpower : powerOf n = 1 + min 3 (Nat.log 1024 (n / 1024 ^ 1)) := by
      rw [powerOf, Nat.log_of_one_lt_of_le (by decide) hlarge, Nat.pow_one, Nat.add_comm 1, ← Nat.add_min_add_right]
    rw [hpower] at hname ⊢
    rw [Nat.add_comm] at hname
    rw [text_count_of_le hlarge, finite?_of_is hx]
    exact congrArg Except.ok (inUnits_of_is hn (by decide) hx hname)

theorem eq_ofBytes (hn : n < 2 ^ 53) (hs : text (.count n) = .ok s) (ha : Says s a) : a = Amount.ofBytes n := by
  obtain ⟨t, ht, hsays⟩ := exists_text_count hn
  cases hs.symm.trans ht
  exact ha.unique hsays

/-! ## Beyond the units -/

/-- What is too large for the other units has the last one, however its number is rounded. -/
theorem inUnits_of_isAtLeast (hus : us.length ≤ 4) (hx : x.IsAtLeast (1024 ^ us.length)) :
    ∃ y, inUnits us x = quantity y lastUnit := by
  induction us generalizing x with
  | nil => exact ⟨x, rfl⟩
  | cons u us ih =>
    rw [List.length_cons] at hus hx
    have hlarge : x.ltNat 1024 = false := by
      refine (hx.mono ?_).ltNat
      exact_mod_cast Nat.le_self_pow (Nat.succ_ne_zero us.length) 1024
    have hquotient : (1024 ^ (us.length + 1) / 1024 : ℚ) = (1024 ^ us.length : Nat) := by
      rw [pow_succ, mul_div_cancel_right₀ _ (by norm_num)]
      norm_cast
    have hlt : 1024 ^ us.length < 2 ^ 53 :=
      (Nat.pow_le_pow_right (by decide) (Nat.le_of_succ_le hus)).trans_lt (by decide)
    have hshrunk := hx.shrink (hquotient ▸ Double.hasDouble_natCast hlt)
    rw [hquotient, Nat.cast_pow] at hshrunk
    rw [inUnits, hlarge]
    exact ih (Nat.le_of_succ_le hus) hshrunk

theorem quantity_of_text_count (hn : 1024 ^ 4 ≤ n) (hs : text (.count n) = .ok s) :
    ∃ y, s = quantity y lastUnit := by
  have hquotient : ((1024 ^ 3 : Nat) : ℚ) ≤ n / (1024 : Nat) := by
    rw [le_div_iff₀ (by norm_num)]
    exact_mod_cast hn
  have hx := Double.ofRatio_isAtLeast (by decide) (Double.hasDouble_natCast (by decide)) hquotient
  rw [text_count_of_le (by omega), Nat.pow_one] at hs
  cases hfinite : finite? (Double.ofRatio false n 1024) with
  | error f =>
    rw [hfinite] at hs
    cases hs
  | ok y =>
    rw [hfinite] at hs
    cases hs
    rw [eq_of_finite? hfinite]
    exact inUnits_of_isAtLeast (by decide) (by exact_mod_cast hx)

theorem lt_of_unitName?_ne (hs : text (.count n) = .ok s) (ha : Says s a) (hunit : a.unitName? ≠ some lastUnit) :
    n < 1024 ^ 4 := by
  by_contra hlarge
  obtain ⟨y, rfl⟩ := quantity_of_text_count (Nat.le_of_not_lt hlarge) hs
  exact hunit (ha.unitName?_of_append (by decide))

/-! ## What is read -/

/-- What is said of 1048525 bytes, which are 51 short of a megabyte. -/
theorem says_short : Says "1024.0 KB" ⟨10240, 1⟩ := by
  have htext : withPoint 1 10240 ++ " " ++ "KB" = "1024.0 KB" := by decide +kernel
  rw [← htext]
  exact says_quantity rfl

/-- Below `2 ^ 53` bytes what is printed is a number with one decimal and a unit, it is no more than a twentieth of the
unit from the size, and nothing smaller is printed as more. -/
theorem text_measures (hn : n < 2 ^ 53) :
    ∃ s a, text (.count n) = .ok s ∧ Says s a ∧ (∀ b, Says s b → b = a) ∧ |a.bytes - n| ≤ a.unit / 20 ∧
      ∀ m t b, m ≤ n → text (.count (m : Nat)) = .ok t → Says t b → b.bytes ≤ a.bytes := by
  obtain ⟨s, hs, hsays⟩ := exists_text_count hn
  refine ⟨s, _, hs, hsays, fun b hb => hb.unique hsays, ofBytes_near n, ?_⟩
  intro m t b hm ht hb
  rw [eq_ofBytes (hm.trans_lt hn) ht hb]
  exact ofBytes_le_ofBytes hm

theorem text_measures_short :
    1048525 < 2 ^ 53 ∧ ∃ a, text (.count 1048525) = .ok "1024.0 KB" ∧ Says "1024.0 KB" a ∧
      a = ⟨10240, 1⟩ ∧ |a.bytes - 1048525| ≤ a.unit / 20 ∧
      ∀ m t b, m ≤ 1048525 → text (.count (m : Nat)) = .ok t → Says t b → b.bytes ≤ a.bytes := by
  have htext : text (.count 1048525) = .ok "1024.0 KB" := by decide +kernel
  obtain ⟨s, a, hs, ha, hunique, hnear, hmono⟩ := text_measures (n := 1048525) (by decide)
  cases htext.symm.trans hs
  obtain rfl := hunique _ says_short
  exact ⟨by decide, _, htext, ha, rfl, hnear, hmono⟩

/-- A unit other than the last one is printed for the sizes below the last one. The number is below 1024 then, unless
the size falls short of the next unit by so little that rounding closes the gap: for such a size it is 1024. -/
theorem number_lt_iff (n : Nat) :
    ((∃ s a, text (.count n) = .ok s ∧ Says s a ∧ a.unitName? ≠ some lastUnit) ↔ n < 1024 ^ 4) ∧
      ∀ s a, text (.count n) = .ok s → Says s a → a.unitName? ≠ some lastUnit →
        (a.number < 1024 ↔ ¬ FallsShort n) ∧ (FallsShort n → a.number = 1024) := by
  refine ⟨⟨?_, ?_⟩, ?_⟩
  · rintro ⟨s, a, hs, ha, hunit⟩
    exact lt_of_unitName?_ne hs ha hunit
  · intro hn
    obtain ⟨s, hs, hsays⟩ := exists_text_count (hn.trans (by decide))
    exact ⟨s, _, hs, hsays, unitName?_ofBytes_ne hn⟩
  · intro s a hs ha hunit
    have hn := lt_of_unitName?_ne hs ha hunit
    rw [eq_ofBytes (hn.trans (by decide)) hs ha]
    exact ⟨number_ofBytes_lt_iff hn, number_ofBytes_of_fallsShort hn⟩

theorem number_lt_iff_short :
    ∃ a, text (.count 1048525) = .ok "1024.0 KB" ∧ Says "1024.0 KB" a ∧ a.unitName? ≠ some lastUnit ∧
      FallsShort 1048525 ∧ ¬ a.number < 1024 ∧ a.number = 1024 := by
  have htext : text (.count (1048525 : Nat)) = .ok "1024.0 KB" := by decide +kernel
  have hshort : FallsShort 1048525 := ⟨1, by decide, by decide, by decide⟩
  have hunit : Amount.unitName? ⟨10240, 1⟩ ≠ some lastUnit := by decide
  obtain ⟨hlt, heq⟩ := (number_lt_iff 1048525).2 _ _ htext says_short hunit
  exact ⟨_, htext, says_short, hunit, hshort, fun h => hlt.1 h hshort, heq hshort⟩

end FileSize
end EntityGen
