import EntityGen.Proofs.Calendar
import EntityGen.Schema.Scalar

/-! Literals of times: which times have one, and that the literals are in the order of the instants. -/

namespace EntityGen

open Calendar Text

/-- The numbers of a UTC time in a literal, with the texts between them and behind the last. -/
def stampLayout : List (Nat × String) :=
  [(4, "-"), (2, "-"), (2, "T"), (2, ":"), (2, ":"), (2, "."), (6, "Z)")]

/-- A literal shows a UTC time down to the microsecond, every number in its full width. -/
def Stamps (l : LocalTime) (literal : String) : Prop :=
  ∃ stamp, literal = "datetime(" ++ stamp ∧ ShowsAll stampLayout l.fields stamp

variable {l l' : LocalTime} {z z' : ZonedTime} {s s' type type' : String}

theorem stamps_instantLiteral (h : 1000 ≤ l.date.year) : Stamps l (instantLiteral l) := by
  have hyears := l.date.year_range
  have hmonths := l.date.month_range
  have hdays := l.date.day_range
  have hlength := daysInMonth_le l.date.year l.date.month
  have hhours := l.time.hour_lt
  have hminutes := l.time.minute_lt
  have hseconds := l.time.second_lt
  have hyear : Shows 4 l.date.year (toString l.date.year) := .of_repr_of_le (by omega) (by omega)
  have htwo : ∀ n, n < 100 → Shows 2 n (digits 2 n) := fun n hn => .of_digits (by decide) (by omega)
  have hmicroseconds := l.time.microsecond_lt
  have hmicrosecond : Shows 6 l.time.microsecond (digits 6 l.time.microsecond) :=
    .of_digits (by decide) (by omega)
  have hmonth := htwo l.date.month (by omega)
  have hday := htwo l.date.day (by omega)
  have hhour := htwo l.time.hour (by omega)
  have hminute := htwo l.time.minute (by omega)
  have hsecond := htwo l.time.second (by omega)
  rw [Stamps, stampLayout, LocalTime.fields_eq]
  refine ⟨_, ?_, .cons hyear <| .cons hmonth <| .cons hday <| .cons hhour <| .cons hminute <| .cons hsecond <|
    .cons hmicrosecond .nil⟩
  unfold instantLiteral ClockTime.toSeconds
  simp only [String.append_assoc, String.append_empty]

theorem Stamps.lt_iff (h : Stamps l s) (h' : Stamps l' s') : s < s' ↔ l.instant 0 < l'.instant 0 := by
  obtain ⟨stamp, rfl, hs⟩ := h
  obtain ⟨stamp', rfl, hs'⟩ := h'
  rw [String.lt_iff, String.toList_append, String.toList_append, append_lt_append_iff rfl, LocalTime.instant_lt_iff,
    ← hs.lt_iff hs', String.lt_iff]
  simp

theorem Stamps.eq_iff (h : Stamps l s) (h' : Stamps l' s') : s = s' ↔ l.instant 0 = l'.instant 0 :=
  eq_iff_of_lt_iff (h.lt_iff h') (h'.lt_iff h)

/-- The time that a literal shows is the one by UTC. -/
theorem argumentLiteral_of_instant (ht : Scalar.ofName type = .datetime) (h : l.instant 0 = z.instant) :
    argumentLiteral z type = .ok (instantLiteral l) := by
  rw [argumentLiteral, ht, Scalar.literal, ZonedTime.utc?_eq_some_iff.2 h]

theorem argumentLiteral_of_not_isInCalendar (ht : Scalar.ofName type = .datetime) (h : ¬ z.IsInCalendar) :
    argumentLiteral z type = .error (.data .outsideCalendar) := by
  rw [argumentLiteral, ht, Scalar.literal, ZonedTime.utc?_eq_none_iff.2 h]

theorem argumentLiteral_eq_error_iff (ht : Scalar.ofName type = .datetime) :
    argumentLiteral z type = .error (.data .outsideCalendar) ↔ ¬ z.IsInCalendar := by
  refine ⟨?_, argumentLiteral_of_not_isInCalendar ht⟩
  rintro he ⟨l, hl⟩
  rw [argumentLiteral_of_instant ht hl] at he
  cases he

/-- Whatever its clock shows, a time has a literal while the calendar lasts. From the year 1000 on, by UTC, that shows
the UTC time, two literals are one if the instants are, and they are in the order of the instants. -/
theorem argumentLiteral_stamps (ht : Scalar.ofName type = .datetime) (ht' : Scalar.ofName type' = .datetime)
    (z z' : ZonedTime) :
    (argumentLiteral z type = .error (.data .outsideCalendar) ↔ ¬ z.IsInCalendar) ∧
    (z.IsInCalendar → ∃ s, argumentLiteral z type = .ok s) ∧
    (∀ l : LocalTime, l.instant 0 = z.instant → 1000 ≤ l.date.year →
      ∃ s, argumentLiteral z type = .ok s ∧ Stamps l s) ∧
    ∀ (l l' : LocalTime) (s s' : String), l.instant 0 = z.instant → l'.instant 0 = z'.instant →
      1000 ≤ l.date.year → 1000 ≤ l'.date.year →
      argumentLiteral z type = .ok s → argumentLiteral z' type' = .ok s' →
        (s = s' ↔ z.instant = z'.instant) ∧ (s < s' ↔ z.instant < z'.instant) := by
  refine ⟨argumentLiteral_eq_error_iff ht, ?_, ?_, ?_⟩
  · rintro ⟨l, hl⟩
    exact ⟨_, argumentLiteral_of_instant ht hl⟩
  · intro l hl hyear
    exact ⟨_, argumentLiteral_of_instant ht hl, stamps_instantLiteral hyear⟩
  · intro l l' s s' hl hl' hyear hyear' hs hs'
    rw [argumentLiteral_of_instant ht hl] at hs
    rw [argumentLiteral_of_instant ht' hl'] at hs'
    cases hs
    cases hs'
    have h := stamps_instantLiteral hyear
    have h' := stamps_instantLiteral hyear'
    rw [← hl, ← hl']
    exact ⟨h.eq_iff h', h.lt_iff h'⟩

/-- By UTC, the one time belongs to the year after the one that its clock shows, and the other to the year before. -/
theorem argumentLiteral_stamps_turning :
    Scalar.ofName " DateTime" = .datetime ∧ Scalar.ofName "DATE" = .datetime ∧
    ∃ (late early : ZonedTime) (s s' : String),
      late.clock.fields = [2023, 12, 31, 23, 59, 59, 500000] ∧ late.ahead = -30000001 ∧
      early.clock.fields = [2024, 1, 1, 0, 0, 0, 0] ∧ early.ahead = 1 ∧
      argumentLiteral late " DateTime" = .ok s ∧ s = "datetime(2024-01-01T00:00:29.500001Z)" ∧
      argumentLiteral early "DATE" = .ok s' ∧ s' = "datetime(2023-12-31T23:59:59.999999Z)" ∧
      (s = s' ↔ late.instant = early.instant) ∧ (s < s' ↔ late.instant < early.instant) := by
  have ht : Scalar.ofName " DateTime" = .datetime := by decide +kernel
  have ht' : Scalar.ofName "DATE" = .datetime := by decide +kernel
  let late : ZonedTime := ⟨⟨⟨2023, 12, 31, by decide, by decide, by decide⟩,
    ⟨23, 59, 59, 500000, by decide, by decide, by decide, by decide⟩⟩, -30000001, by decide⟩
  let early : ZonedTime := ⟨⟨⟨2024, 1, 1, by decide, by decide, by decide⟩,
    ⟨0, 0, 0, 0, by decide, by decide, by decide, by decide⟩⟩, 1, by decide⟩
  let l : LocalTime := ⟨⟨2024, 1, 1, by decide, by decide, by decide⟩,
    ⟨0, 0, 29, 500001, by decide, by decide, by decide, by decide⟩⟩
  let l' : LocalTime := ⟨⟨2023, 12, 31, by decide, by decide, by decide⟩,
    ⟨23, 59, 59, 999999, by decide, by decide, by decide, by decide⟩⟩
  have hl : l.instant 0 = late.instant := by decide
  have hl' : l'.instant 0 = early.instant := by decide
  have hs := argumentLiteral_of_instant ht hl
  have hs' := argumentLiteral_of_instant ht' hl'
  refine ⟨ht, ht', late, early, instantLiteral l, instantLiteral l', rfl, rfl, rfl, rfl, hs, ?_, hs', ?_, ?_⟩
  · decide +kernel
  · decide +kernel
  · exact (argumentLiteral_stamps ht ht' late early).2.2.2 l l' _ _ hl hl' (by decide) (by decide) hs hs'

end EntityGen
