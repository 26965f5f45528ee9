import Mathlib.Algebra.Group.Nat.Defs
import EntityGen.Value.Text

/-! Which values have a text. -/

namespace EntityGen.Value

variable {v : Value} {vs : List Value} {es : List (Value × Value)} {outer : List Nat}

/-- A value has a text wherever it stands: no number in it has too many digits. -/
def HasText (v : Value) : Prop := ∀ outer, (shownIn outer v).isSome

theorem itemsIn_isSome_iff : (itemsIn outer vs).isSome ↔ ∀ v ∈ vs, (shownIn outer v).isSome := by
  induction vs with
  | nil => simp [itemsIn]
  | cons v vs ih =>
    rw [List.forall_mem_cons, ← ih, itemsIn]
    cases shownIn outer v with
    | none => simp
    | some s => cases itemsIn outer vs <;> simp

theorem entryIn_isSome_iff {e : Value × Value} :
    (entryIn outer e).isSome ↔ (shownIn outer e.1).isSome ∧ (shownIn outer e.2).isSome := by
  rw [entryIn]
  cases shownIn outer e.1 with
  | none => simp
  | some s => cases shownIn outer e.2 <;> simp

theorem entriesIn_isSome_iff :
    (entriesIn outer es).isSome ↔ ∀ e ∈ es, (shownIn outer e.1).isSome ∧ (shownIn outer e.2).isSome := by
  induction es with
  | nil => simp [entriesIn]
  | cons e es ih =>
    rw [List.forall_mem_cons, ← ih, ← entryIn_isSome_iff, entriesIn]
    cases entryIn outer e with
    | none => simp
    | some s => cases entriesIn outer es <;> simp

@[simp] theorem hasText_list_iff : (Value.list vs).HasText ↔ ∀ v ∈ vs, v.HasText := by
  have hs : ∀ outer, (shownIn outer (.list vs)).isSome ↔ ∀ v ∈ vs, (shownIn outer v).isSome := by
    intro outer
    rw [← itemsIn_isSome_iff, shownIn]
    cases itemsIn outer vs <;> simp
  simp only [HasText, hs]
  exact ⟨fun h v hv outer => h outer v hv, fun h outer v hv => h v hv outer⟩

@[simp] theorem hasText_map_iff : (Value.map es).HasText ↔ ∀ e ∈ es, e.1.HasText ∧ e.2.HasText := by
  have hs : ∀ outer, (shownIn outer (.map es)).isSome ↔
      ∀ e ∈ es, (shownIn outer e.1).isSome ∧ (shownIn outer e.2).isSome := by
    intro outer
    rw [← entriesIn_isSome_iff, shownIn]
    cases entriesIn outer es <;> simp
  simp only [HasText, hs]
  exact ⟨fun h e he => ⟨fun outer => (h outer e he).1, fun outer => (h outer e he).2⟩,
    fun h outer e he => ⟨(h e he).1 outer, (h e he).2 outer⟩⟩

theorem hasText_int_iff {n : Int} :
    (Value.int n).HasText ↔ (toString n.natAbs).length ≤ Number.digitLimit := by
  simp only [HasText, shownIn, intText?]
  split
  · next h => simpa using h
  · next h => simpa using Nat.le_of_not_lt h

theorem hasText_ofCodes (codes : List Nat) : (ofCodes codes).HasText := by
  rw [ofCodes]
  split <;> exact fun _ => rfl

theorem HasText.exists_toText (h : v.HasText) : ∃ s, v.toText = .ok s := by
  obtain ⟨s, hs⟩ := Option.isSome_iff_exists.1 (h [])
  have hshown : v.shown? = some s := hs
  unfold toText
  split
  case h_5 => exact ⟨s, by rw [hshown]⟩
  all_goals exact ⟨_, rfl⟩

theorem toText_of_text? {text : String} (h : v.text? = some text) : v.toText = .ok text := by
  cases v <;> cases h <;> rfl

/-! ## Values without a text -/

/-- A whole number stands in a value. -/
inductive Mentions (n : Int) : Value → Prop
  | int : Mentions n (.int n)
  | item {v : Value} {vs : List Value} : v ∈ vs → Mentions n v → Mentions n (.list vs)
  | key {e : Value × Value} {es : List (Value × Value)} : e ∈ es → Mentions n e.1 → Mentions n (.map es)
  | value {e : Value × Value} {es : List (Value × Value)} : e ∈ es → Mentions n e.2 → Mentions n (.map es)
  | first {a b : Value} : Mentions n a → Mentions n (.pair a b)
  | second {a b : Value} : Mentions n b → Mentions n (.pair a b)
  | element {v : Value} {vs : List Value} : v ∈ vs → Mentions n v → Mentions n (.set vs)
  | knot {number : Nat} {whole : Value} : Mentions n whole → Mentions n (.knot number whole)

/-- A whole number with too many digits for a text stands in a value. -/
def HasLongNumber (v : Value) : Prop := ∃ n, v.Mentions n ∧ 10 ^ Number.digitLimit ≤ n.natAbs

theorem HasLongNumber.imp {w : Value} (h : v.HasLongNumber) (hw : ∀ n, v.Mentions n → w.Mentions n) :
    w.HasLongNumber := by
  obtain ⟨n, hn, hlong⟩ := h
  exact ⟨n, hw n hn, hlong⟩

theorem intText?_eq_none_iff {n : Int} : intText? n = none ↔ 10 ^ Number.digitLimit ≤ n.natAbs := by
  have hlength : (toString n.natAbs).length ≤ Number.digitLimit ↔ n.natAbs < 10 ^ Number.digitLimit :=
    Nat.length_repr_le_iff (by decide)
  rw [intText?, ite_eq_left_iff, ← Nat.not_lt, ← hlength]
  simp

mutual

/-- Only a number can be in the way of a text. -/
theorem hasLongNumber_of_shownIn (outer : List Nat) : (v : Value) → shownIn outer v = none → v.HasLongNumber
  | .int n, h => by
    rw [shownIn, intText?_eq_none_iff] at h
    exact ⟨n, .int, h⟩
  | .list items, h => by
    rw [shownIn] at h
    cases hi : itemsIn outer items with
    | none =>
      obtain ⟨v, hv, hlong⟩ := hasLongNumber_of_itemsIn outer items hi
      exact hlong.imp fun n => .item hv
    | some texts => simp [hi] at h
  | .map entries, h => by
    rw [shownIn] at h
    cases he : entriesIn outer entries with
    | none =>
      obtain ⟨e, hmem, hlong | hlong⟩ := hasLongNumber_of_entriesIn outer entries he
      · exact hlong.imp fun n => .key hmem
      · exact hlong.imp fun n => .value hmem
    | some texts => simp [he] at h
  | .pair a b, h => by
    rw [shownIn] at h
    cases ha : shownIn outer a with
    | none => exact (hasLongNumber_of_shownIn outer a ha).imp fun n => .first
    | some s =>
      cases hb : shownIn outer b with
      | none => exact (hasLongNumber_of_shownIn outer b hb).imp fun n => .second
      | some t => simp [ha, hb] at h
  | .set items, h => by
    rw [shownIn] at h
    cases hi : itemsIn outer items with
    | none =>
      obtain ⟨v, hv, hlong⟩ := hasLongNumber_of_itemsIn outer items hi
      exact hlong.imp fun n => .element hv
    | some texts => split at h <;> simp [hi] at h
  | .knot n whole, h => by
    rw [shownIn] at h
    split at h
    · cases h
    · exact (hasLongNumber_of_shownIn (n :: outer) whole h).imp fun n => .knot

theorem hasLongNumber_of_itemsIn (outer : List Nat) :
    (vs : List Value) → itemsIn outer vs = none → ∃ v ∈ vs, v.HasLongNumber
  | v :: vs, h => by
    rw [itemsIn] at h
    cases hv : shownIn outer v with
    | none => exact ⟨v, List.mem_cons_self, hasLongNumber_of_shownIn outer v hv⟩
    | some s =>
      cases hvs : itemsIn outer vs with
      | none =>
        obtain ⟨w, hw, hlong⟩ := hasLongNumber_of_itemsIn outer vs hvs
        exact ⟨w, List.mem_cons_of_mem v hw, hlong⟩
      | some texts => simp [hv, hvs] at h

theorem hasLongNumber_of_entriesIn (outer : List Nat) : (es : List (Value × Value)) →
    entriesIn outer es = none → ∃ e ∈ es, e.1.HasLongNumber ∨ e.2.HasLongNumber
  | e :: es, h => by
    rw [entriesIn] at h
    cases he : entryIn outer e with
    | none => exact ⟨e, List.mem_cons_self, hasLongNumber_of_entryIn outer e he⟩
    | some s =>
      cases hes : entriesIn outer es with
      | none =>
        obtain ⟨f, hf, hlong⟩ := hasLongNumber_of_entriesIn outer es hes
        exact ⟨f, List.mem_cons_of_mem e hf, hlong⟩
      | some texts => simp [he, hes] at h

theorem hasLongNumber_of_entryIn (outer : List Nat) :
    (e : Value × Value) → entryIn outer e = none → e.1.HasLongNumber ∨ e.2.HasLongNumber
  | (k, v), h => by
    rw [entryIn] at h
    cases hk : shownIn outer k with
    | none => exact .inl (hasLongNumber_of_shownIn outer k hk)
    | some s =>
      cases hv : shownIn outer v with
      | none => exact .inr (hasLongNumber_of_shownIn outer v hv)
      | some t => simp [hk, hv] at h

end

/-- A value has no text, and a number in it that is too long is the cause. -/
structure LacksText (v : Value) : Prop where
  ne_ok : ∀ text, v.toText ≠ .ok text
  long : v.HasLongNumber

theorem lacksText_of_toText {f : Failure} (h : v.toText = .error f) : f = .data .numberTooLong ∧ v.LacksText := by
  have hne : ∀ text, v.toText ≠ .ok text := by simp [h]
  unfold toText at h
  split at h
  case h_5 =>
    split at h
    · cases h
    · next hv =>
      cases h
      exact ⟨rfl, hne, hasLongNumber_of_shownIn [] _ hv⟩
  all_goals cases h

theorem toText_int_of_le {n : Int} (h : 10 ^ Number.digitLimit ≤ n.natAbs) :
    (Value.int n).toText = .error (.data .numberTooLong) := by
  have hnone : (Value.int n).shown? = none := intText?_eq_none_iff.2 h
  simp only [toText, hnone]

end EntityGen.Value
