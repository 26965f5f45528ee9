import Mathlib
import EntityGen.Proofs.Text.Decimal

/-! The days of the calendar one after another, and the moments that a clock showing UTC can show. -/

namespace EntityGen.Calendar

variable {year month : Nat} {d d' : Date} {t t' : ClockTime} {l l' : LocalTime} {z : ZonedTime} {m : Moment}

/-- By UTC, the instant of a moment belongs to one of the years 1 to 9999: there is a time that a clock showing
UTC shows then. -/
def Moment.IsInCalendar (m : Moment) : Prop := ∃ l : LocalTime, l.instant 0 = m.clock.instant m.offset

/-! ## Years and months -/

def yearLength (year : Nat) : Nat := if isLeapYear year then 366 else 365

/-- The days from the first one of the year 1 to the first one of a year. -/
def daysBeforeYear (year : Nat) : Nat :=
  365 * (year - 1) + (year - 1) / 4 - (year - 1) / 100 + (year - 1) / 400

theorem isLeapYear_iff : isLeapYear year = true ↔ 4 ∣ year ∧ (100 ∣ year → 400 ∣ year) := by
  simp only [isLeapYear, Bool.and_eq_true, Bool.or_eq_true, decide_eq_true_eq, Nat.dvd_iff_mod_eq_zero]
  tauto

theorem daysBeforeYear_succ (h : 1 ≤ year) : daysBeforeYear (year + 1) = daysBeforeYear year + yearLength year := by
  obtain ⟨n, rfl⟩ := Nat.exists_eq_add_of_le' h
  have hle : n / 100 ≤ n := Nat.div_le_self n 100
  simp only [daysBeforeYear, yearLength, isLeapYear_iff, Nat.add_sub_cancel, Nat.succ_div]
  by_cases h4 : 4 ∣ n + 1
  · by_cases h100 : 100 ∣ n + 1
    · by_cases h400 : 400 ∣ n + 1
      · rw [if_pos h4, if_pos h100, if_pos h400, if_pos ⟨h4, fun _ => h400⟩]
        omega
      · rw [if_pos h4, if_pos h100, if_neg h400, if_neg fun h => h400 (h.2 h100)]
        omega
    · have h400 : ¬ 400 ∣ n + 1 := fun h => h100 (Nat.dvd_trans (by decide) h)
      rw [if_pos h4, if_neg h100, if_neg h400, if_pos ⟨h4, fun h => absurd h h100⟩]
      omega
  · have h100 : ¬ 100 ∣ n + 1 := fun h => h4 (Nat.dvd_trans (by decide) h)
    have h400 : ¬ 400 ∣ n + 1 := fun h => h4 (Nat.dvd_trans (by decide) h)
    rw [if_neg h4, if_neg h100, if_neg h400, if_neg fun h => h4 h.1]
    omega

theorem daysBeforeMonth_succ (year : Nat) (h : 1 ≤ month) :
    daysBeforeMonth year (month + 1) = daysBeforeMonth year month + daysInMonth year month := by
  obtain ⟨k, rfl⟩ := Nat.exists_eq_add_of_le' h
  simp [daysBeforeMonth, List.range_succ]

theorem daysInMonth_le (year month : Nat) : daysInMonth year month ≤ 31 := by
  unfold daysInMonth
  split <;> (try split) <;> decide

@[simp] theorem daysBeforeMonth_one (year : Nat) : daysBeforeMonth year 1 = 0 := rfl

/-- Twelve months are a year. -/
theorem daysBeforeMonth_thirteen (year : Nat) : daysBeforeMonth year 13 = yearLength year := by
  cases hleap : isLeapYear year <;> simp [daysBeforeMonth, yearLength, List.range_succ, daysInMonth, hleap]

theorem daysBeforeMonth_twelve (year : Nat) : daysBeforeMonth year 12 + 31 = yearLength year := by
  rw [← daysBeforeMonth_thirteen]
  exact (daysBeforeMonth_succ year (by decide)).symm

/-- What begins one after another, each as long as said, begins in order. -/
theorem add_le_of_steps {start length : Nat → Nat} (hstep : ∀ n, 1 ≤ n → start (n + 1) = start n + length n)
    {a b : Nat} (ha : 1 ≤ a) (hab : a < b) : start a + length a ≤ start b := by
  induction b, hab using Nat.le_induction with
  | base => exact (hstep a ha).ge
  | succ b hb ih =>
    rw [hstep b (by omega)]
    exact Nat.le_add_right_of_le ih

/-- What lies in one of them comes first if that begins earlier, or if it is the same one and lies further ahead in
it. -/
theorem add_lt_add_iff_of_steps {start length : Nat → Nat} (hstep : ∀ n, 1 ≤ n → start (n + 1) = start n + length n)
    {a b r s : Nat} (ha : 1 ≤ a) (hb : 1 ≤ b) (hr : r < length a) (hs : s < length b) :
    start a + r < start b + s ↔ a < b ∨ a = b ∧ r < s := by
  rcases Nat.lt_trichotomy a b with h | rfl | h
  · have hle := add_le_of_steps hstep ha h
    simp only [h, true_or, iff_true]
    omega
  · simp
  · have hle := add_le_of_steps hstep hb h
    simp only [Nat.not_lt.2 h.le, h.ne', false_and, or_false, iff_false]
    omega

/-- The days from the first one of the year to this one. -/
def Date.dayOfYear (d : Date) : Nat := daysBeforeMonth d.year d.month + (d.day - 1)

theorem Date.dayNumber_eq (d : Date) : d.dayNumber = daysBeforeYear d.year + d.dayOfYear := by
  rw [dayNumber, daysBeforeYear, dayOfYear, Nat.add_assoc]

theorem Date.dayOfYear_lt (d : Date) : d.dayOfYear < yearLength d.year := by
  have hday := d.day_range
  have hmonth := d.month_range
  rw [← daysBeforeMonth_thirteen, dayOfYear]
  have hle := add_le_of_steps (fun n hn => daysBeforeMonth_succ d.year hn) hmonth.1
    (show d.month < 13 by omega)
  omega

/-- The last day of the calendar is the 3652058th after the first. -/
theorem Date.dayNumber_le (d : Date) : d.dayNumber ≤ 3652058 := by
  have hyear := d.year_range
  have hday := d.dayOfYear_lt
  have hle := add_le_of_steps (fun n hn => daysBeforeYear_succ hn) hyear.1 (show d.year < 10000 by omega)
  have hend : daysBeforeYear 10000 = 3652059 := by decide
  rw [dayNumber_eq]
  omega

/-! ## One day further -/

theorem Date.dayNumber_next? (h : d.next? = some d') : d'.dayNumber = d.dayNumber + 1 := by
  have hday := d.day_range
  have hmonth := d.month_range
  have hyear := d.year_range
  unfold next? at h
  simp only [dayNumber_eq, dayOfYear]
  -- It is in the same month, in the next month or in the next year.
  split_ifs at h with hd hm hy <;> cases h
  · dsimp only
    omega
  · dsimp only
    rw [daysBeforeMonth_succ d.year hmonth.1]
    omega
  · have hlast : d.month = 12 := by omega
    have hlength : daysInMonth d.year 12 = 31 := rfl
    have htwelve := daysBeforeMonth_twelve d.year
    rw [hlast, hlength] at hd hday
    dsimp only
    rw [daysBeforeYear_succ hyear.1, daysBeforeMonth_one, hlast]
    omega

theorem Date.dayNumber_previous? (h : d.previous? = some d') : d'.dayNumber + 1 = d.dayNumber := by
  have hday := d.day_range
  have hmonth := d.month_range
  have hyear := d.year_range
  unfold previous? at h
  simp only [dayNumber_eq, dayOfYear]
  split_ifs at h with hd hm hy <;> cases h
  · dsimp only
    omega
  · have hlength := one_le_daysInMonth d.year (d.month - 1)
    have hstep := daysBeforeMonth_succ d.year (Nat.le_sub_one_of_lt hm)
    rw [Nat.sub_add_cancel hmonth.1] at hstep
    dsimp only
    omega
  · have hfirst : d.month = 1 := by omega
    have hstep := daysBeforeYear_succ (Nat.le_sub_one_of_lt hy)
    rw [Nat.sub_add_cancel hyear.1] at hstep
    have htwelve := daysBeforeMonth_twelve (d.year - 1)
    dsimp only
    rw [hfirst, daysBeforeMonth_one]
    omega

theorem Date.dayNumber_of_previous?_eq_none (h : d.previous? = none) : d.dayNumber = 0 := by
  unfold previous? at h
  split_ifs at h with hd hm hy
  have hfirst : d.year = 1 ∧ d.month = 1 ∧ d.day = 1 := by
    have := d.year_range
    have := d.month_range
    have := d.day_range
    omega
  rw [dayNumber, hfirst.1, hfirst.2.1, hfirst.2.2]
  decide

theorem Date.dayNumber_of_next?_eq_none (h : d.next? = none) : d.dayNumber = 3652058 := by
  unfold next? at h
  split_ifs at h with hd hm hy
  have hlast : d.year = 9999 ∧ d.month = 12 := by
    have := d.year_range
    have := d.month_range
    omega
  have hday : d.day = 31 := by
    have hrange := d.day_range
    rw [hlast.1, hlast.2] at hd hrange
    exact Nat.le_antisymm hrange.2 (Nat.le_of_not_lt hd)
  rw [dayNumber, hlast.1, hlast.2, hday]
  decide

/-! ## Order -/

/-- The numbers of a date, the one that counts most first. -/
def Date.fields (d : Date) : List Nat := [d.year, d.month, d.day]

def ClockTime.fields (t : ClockTime) : List Nat := [t.hour, t.minute, t.second, t.microsecond]

def LocalTime.fields (l : LocalTime) : List Nat := l.date.fields ++ l.time.fields

theorem LocalTime.fields_eq (l : LocalTime) : l.fields =
    [l.date.year, l.date.month, l.date.day, l.time.hour, l.time.minute, l.time.second, l.time.microsecond] := rfl

theorem Date.dayNumber_lt_iff : d.dayNumber < d'.dayNumber ↔ d.fields < d'.fields := by
  have hday := d.day_range
  have hday' := d'.day_range
  have hyears := add_lt_add_iff_of_steps (fun n hn => daysBeforeYear_succ hn) d.year_range.1 d'.year_range.1
    d.dayOfYear_lt d'.dayOfYear_lt
  rw [dayNumber_eq, dayNumber_eq, hyears]
  simp only [fields, List.cons_lt_cons_iff, List.not_lt_nil, and_false, or_false]
  refine or_congr_right (and_congr_right fun hyear => ?_)
  have hmonths := add_lt_add_iff_of_steps (fun n hn => daysBeforeMonth_succ d.year hn) (r := d.day - 1)
    (s := d'.day - 1) d.month_range.1 d'.month_range.1 (by omega) (by rw [hyear]; omega)
  rw [dayOfYear, dayOfYear, ← hyear, hmonths]
  refine or_congr_right (and_congr_right fun _ => ?_)
  omega

theorem ClockTime.microseconds_lt (t : ClockTime) : t.microseconds < dayLength := by
  have := t.hour_lt
  have := t.minute_lt
  have := t.second_lt
  have := t.microsecond_lt
  unfold microseconds dayLength
  omega

theorem ClockTime.microseconds_lt_iff : t.microseconds < t'.microseconds ↔ t.fields < t'.fields := by
  have := t.minute_lt
  have := t.second_lt
  have := t.microsecond_lt
  have := t'.minute_lt
  have := t'.second_lt
  have := t'.microsecond_lt
  simp only [fields, List.cons_lt_cons_iff, List.not_lt_nil, and_false, or_false, microseconds]
  omega

theorem LocalTime.instant_zero (l : LocalTime) :
    l.instant 0 = l.date.dayNumber * dayLength + l.time.microseconds := by
  simp only [instant, ClockTime.microseconds, dayLength]
  push_cast
  omega

/-- By UTC, the time comes first whose first field that differs is the less. -/
theorem LocalTime.instant_lt_iff : l.instant 0 < l'.instant 0 ↔ l.fields < l'.fields := by
  have hl := l.time.microseconds_lt
  have hl' := l'.time.microseconds_lt
  have heq : l.date.dayNumber = l'.date.dayNumber ↔ l.date.fields = l'.date.fields :=
    Text.eq_iff_of_lt_iff Date.dayNumber_lt_iff Date.dayNumber_lt_iff
  rw [instant_zero, instant_zero, fields, fields,
    Text.append_lt_append_iff (a := l.date.fields) (b := l'.date.fields) rfl, ← Date.dayNumber_lt_iff, ← heq,
    ← ClockTime.microseconds_lt_iff]
  unfold dayLength at hl hl' ⊢
  omega

theorem LocalTime.instant_eq_iff : l.instant 0 = l'.instant 0 ↔ l.fields = l'.fields :=
  Text.eq_iff_of_lt_iff instant_lt_iff instant_lt_iff

theorem LocalTime.fields_inj : l.fields = l'.fields ↔ l = l' := by
  constructor
  · intro h
    obtain ⟨⟨_, _, _, _, _, _⟩, ⟨_, _, _, _, _, _, _, _⟩⟩ := l
    obtain ⟨⟨_, _, _, _, _, _⟩, ⟨_, _, _, _, _, _, _, _⟩⟩ := l'
    simp only [fields, Date.fields, ClockTime.fields, List.cons_append, List.nil_append, List.cons.injEq,
      and_true] at h
    simp [h]
  · exact fun h => h ▸ rfl

/-! ## Clocks that show UTC -/

/-- The microseconds since the year 1 began by UTC. -/
def ZonedTime.instant (z : ZonedTime) : Int := z.clock.instant 0 - z.ahead

/-- By UTC, the instant belongs to one of the years 1 to 9999. -/
def ZonedTime.IsInCalendar (z : ZonedTime) : Prop := ∃ l : LocalTime, l.instant 0 = z.instant

theorem ClockTime.microseconds_ofMicroseconds {n : Nat} (h : n < dayLength) : (ofMicroseconds n).microseconds = n := by
  unfold dayLength at h
  simp only [microseconds, ofMicroseconds]
  omega

namespace ZonedTime

theorem instant_of_utc? (h : z.utc? = some l) : l.instant 0 = z.instant := by
  have hrange := z.ahead_range
  have htime := z.clock.time.microseconds_lt
  rw [utc?] at h
  rw [instant, LocalTime.instant_zero, LocalTime.instant_zero]
  split_ifs at h with hbefore hafter
  · obtain ⟨d, hd, rfl⟩ := Option.map_eq_some_iff.1 h
    have hday := Date.dayNumber_previous? hd
    dsimp only
    rw [ClockTime.microseconds_ofMicroseconds (by omega)]
    unfold dayLength at *
    omega
  · obtain ⟨d, hd, rfl⟩ := Option.map_eq_some_iff.1 h
    have hday := Date.dayNumber_next? hd
    dsimp only
    rw [ClockTime.microseconds_ofMicroseconds (by omega)]
    unfold dayLength at *
    omega
  · cases h
    dsimp only
    rw [ClockTime.microseconds_ofMicroseconds (by omega)]
    omega

/-- While the calendar lasts, every time has one by UTC. -/
theorem isSome_utc? (h : z.IsInCalendar) : z.utc?.isSome := by
  obtain ⟨l, hl⟩ := h
  have hday := l.date.dayNumber_le
  have htime := l.time.microseconds_lt
  have hclock := z.clock.time.microseconds_lt
  rw [instant, LocalTime.instant_zero, LocalTime.instant_zero] at hl
  rw [utc?, Option.isSome_iff_ne_none]
  intro hnone
  split_ifs at hnone with hbefore hafter
  · rw [Option.map_eq_none_iff] at hnone
    rw [Date.dayNumber_of_previous?_eq_none hnone] at hl
    unfold dayLength at *
    omega
  · rw [Option.map_eq_none_iff] at hnone
    rw [Date.dayNumber_of_next?_eq_none hnone] at hl
    unfold dayLength at *
    omega

theorem utc?_eq_some_iff : z.utc? = some l ↔ l.instant 0 = z.instant := by
  constructor
  · exact instant_of_utc?
  · intro h
    obtain ⟨k, hk⟩ := Option.isSome_iff_exists.1 (isSome_utc? ⟨l, h⟩)
    rw [hk, LocalTime.fields_inj.1 (LocalTime.instant_eq_iff.1 (h.trans (instant_of_utc? hk).symm))]

theorem utc?_eq_none_iff : z.utc? = none ↔ ¬ z.IsInCalendar := by
  rw [← Option.not_isSome_iff_eq_none, not_iff_not]
  refine ⟨fun h => ?_, isSome_utc?⟩
  obtain ⟨l, hl⟩ := Option.isSome_iff_exists.1 h
  exact ⟨l, instant_of_utc? hl⟩

end ZonedTime

namespace Moment

theorem instant_zoned (m : Moment) : m.zoned.instant = m.clock.instant m.offset := by
  simp only [ZonedTime.instant, zoned, LocalTime.instant]
  omega

/-- While the calendar lasts, every moment has a time by UTC. -/
theorem isSome_utc? (h : m.IsInCalendar) : m.utc?.isSome := by
  apply ZonedTime.isSome_utc?
  rwa [ZonedTime.IsInCalendar, instant_zoned]

end Moment

end EntityGen.Calendar
