/-! Dates of the Gregorian calendar in the years 1 to 9999, and moments with an offset from UTC. -/

namespace EntityGen.Calendar

def isLeapYear (year : Nat) : Bool :=
  year % 4 = 0 && (year % 100 ≠ 0 || year % 400 = 0)

def daysInMonth (year : Nat) : (month : Nat) → Nat
  | 2 => if isLeapYear year then 29 else 28
  | 4 | 6 | 9 | 11 => 30
  | _ => 31

theorem one_le_daysInMonth (year month : Nat) : 1 ≤ daysInMonth year month := by
  unfold daysInMonth
  split <;> (try split) <;> decide

structure Date where
  year : Nat
  month : Nat
  day : Nat
  year_range : 1 ≤ year ∧ year ≤ 9999
  month_range : 1 ≤ month ∧ month ≤ 12
  day_range : 1 ≤ day ∧ day ≤ daysInMonth year month
  deriving DecidableEq

/-- The date with these three numbers, if there is one. -/
def Date.ofFields? (year month day : Nat) : Option Date :=
  if h : (1 ≤ year ∧ year ≤ 9999) ∧ (1 ≤ month ∧ month ≤ 12) ∧ 1 ≤ day ∧ day ≤ daysInMonth year month then
    some ⟨year, month, day, h.1, h.2.1, h.2.2⟩
  else none

/-- The day after; the last day of the year 9999 has none. -/
def Date.next? (d : Date) : Option Date :=
  if hd : d.day < daysInMonth d.year d.month then
    some { d with day := d.day + 1, day_range := ⟨by omega, hd⟩ }
  else if hm : d.month < 12 then
    some ⟨d.year, d.month + 1, 1, d.year_range, by have := d.month_range; omega,
      Nat.le_refl 1, one_le_daysInMonth _ _⟩
  else if hy : d.year < 9999 then
    some ⟨d.year + 1, 1, 1, by omega, by decide, Nat.le_refl 1, one_le_daysInMonth _ _⟩
  else none

/-- The day before; the first day of the year 1 has none. -/
def Date.previous? (d : Date) : Option Date :=
  if hd : 1 < d.day then
    some { d with day := d.day - 1, day_range := by have := d.day_range; omega }
  else if hm : 1 < d.month then
    some ⟨d.year, d.month - 1, daysInMonth d.year (d.month - 1), d.year_range,
      by have := d.month_range; omega, one_le_daysInMonth _ _, Nat.le_refl _⟩
  else if hy : 1 < d.year then
    some ⟨d.year - 1, 12, 31, by have := d.year_range; omega, by decide, by decide, Nat.le_refl _⟩
  else none

structure ClockTime where
  hour : Nat
  minute : Nat
  second : Nat
  microsecond : Nat
  hour_lt : hour < 24
  minute_lt : minute < 60
  second_lt : second < 60
  microsecond_lt : microsecond < 1000000
  deriving DecidableEq

def ClockTime.ofFields? (hour minute second microsecond : Nat) : Option ClockTime :=
  if h : hour < 24 ∧ minute < 60 ∧ second < 60 ∧ microsecond < 1000000 then
    some ⟨hour, minute, second, microsecond, h.1, h.2.1, h.2.2.1, h.2.2.2⟩
  else none

/-- The microseconds of a day. -/
def dayLength : Nat := 86400000000

/-- The microseconds since midnight. -/
def ClockTime.microseconds (t : ClockTime) : Nat :=
  ((t.hour * 60 + t.minute) * 60 + t.second) * 1000000 + t.microsecond

/-- The time of day so many microseconds after a midnight. -/
def ClockTime.ofMicroseconds (n : Nat) : ClockTime where
  hour := n / 3600000000 % 24
  minute := n / 60000000 % 60
  second := n / 1000000 % 60
  microsecond := n % 1000000
  hour_lt := Nat.mod_lt _ (by decide)
  minute_lt := Nat.mod_lt _ (by decide)
  second_lt := Nat.mod_lt _ (by decide)
  microsecond_lt := Nat.mod_lt _ (by decide)

/-- A date and a time of day as a clock shows them. -/
structure LocalTime where
  date : Date
  time : ClockTime
  deriving DecidableEq

/-- A local time and how many microseconds its clock is ahead of UTC, less than a day either way. -/
structure ZonedTime where
  clock : LocalTime
  ahead : Int
  ahead_range : -dayLength < ahead ∧ ahead < dayLength
  deriving DecidableEq

/-- The same instant on a clock that shows UTC, while the calendar lasts. -/
def ZonedTime.utc? (z : ZonedTime) : Option LocalTime :=
  let n : Int := z.clock.time.microseconds - z.ahead
  if n < 0 then z.clock.date.previous?.map (⟨·, .ofMicroseconds (n + dayLength).toNat⟩)
  else if dayLength ≤ n then z.clock.date.next?.map (⟨·, .ofMicroseconds (n - dayLength).toNat⟩)
  else some ⟨z.clock.date, .ofMicroseconds n.toNat⟩

/-- A local time and how many minutes its clock is ahead of UTC, less than a day either way. -/
structure Moment where
  clock : LocalTime
  offset : Int
  offset_range : -1440 < offset ∧ offset < 1440
  deriving DecidableEq

/-- The year 1 begins, by a clock that shows UTC. -/
def Moment.first : Moment where
  clock := ⟨⟨1, 1, 1, by decide, by decide, by decide⟩,
    ⟨0, 0, 0, 0, by decide, by decide, by decide, by decide⟩⟩
  offset := 0
  offset_range := by decide

def Moment.zoned (m : Moment) : ZonedTime where
  clock := m.clock
  ahead := m.offset * 60000000
  ahead_range := by have := m.offset_range; unfold dayLength; omega

instance : Coe Moment ZonedTime := ⟨Moment.zoned⟩

def Moment.utc? (m : Moment) : Option LocalTime := m.zoned.utc?

@[simp] theorem Moment.zoned_utc? (m : Moment) : m.zoned.utc? = m.utc? := rfl

def daysBeforeMonth (year month : Nat) : Nat :=
  (List.range (month - 1)).foldl (fun n m => n + daysInMonth year (m + 1)) 0

/-- The days since the first one of the year 1. -/
def Date.dayNumber (d : Date) : Nat :=
  let years := d.year - 1
  365 * years + years / 4 - years / 100 + years / 400 + daysBeforeMonth d.year d.month + (d.day - 1)

/-- The microseconds since the year 1 began, by a clock that shows UTC; `offset` is in minutes. -/
def LocalTime.instant (l : LocalTime) (offset : Int) : Int :=
  let minutes : Int := l.date.dayNumber * 1440 + l.time.hour * 60 + l.time.minute - offset
  (minutes * 60 + l.time.second) * 1000000 + l.time.microsecond

/-- A number with leading zeros up to a width. -/
def digits (width n : Nat) : String :=
  let text := toString n
  String.ofList (List.replicate (width - text.length) '0') ++ text

def Date.text (d : Date) : String :=
  digits 4 d.year ++ "-" ++ digits 2 d.month ++ "-" ++ digits 2 d.day

def ClockTime.toSeconds (t : ClockTime) : String :=
  digits 2 t.hour ++ ":" ++ digits 2 t.minute ++ ":" ++ digits 2 t.second

/-- The fraction of the second is written only if there is one. -/
def LocalTime.text (l : LocalTime) : String :=
  l.date.text ++ " " ++ l.time.toSeconds ++
    if l.time.microsecond = 0 then "" else "." ++ digits 6 l.time.microsecond

def offsetText (offset : Int) : String :=
  (if offset < 0 then "-" else "+") ++ digits 2 (offset.natAbs / 60) ++ ":" ++ digits 2 (offset.natAbs % 60)

end EntityGen.Calendar
