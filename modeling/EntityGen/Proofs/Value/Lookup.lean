import EntityGen.Value

/-! Keys that are texts. -/

namespace EntityGen.Value

variable {k v w : Value} {name : String} {es : List (Value × Value)}

theorem isNamed_iff : k.isNamed name = true ↔ k = .text name := by
  cases k <;> simp [isNamed]

/-- No other kind of key counts as a text. -/
theorem sameKey_text_iff : k.sameKey (.text name) = true ↔ k = .text name := by
  cases k <;> simp [sameKey, wholeNumber?]

theorem lookup?_cons_of_named (h : k.isNamed name = true) : lookup? ((k, v) :: es) name = some v := by
  simp only [lookup?, List.find?_cons, h, Option.map_some]

theorem lookup?_cons_of_not_named (h : ¬k.isNamed name = true) :
    lookup? ((k, v) :: es) name = lookup? es name := by
  simp only [lookup?, List.find?_cons, h]

theorem lookup?_bind_self : lookup? (bind (.text name) v es) name = some v := by
  induction es with
  | nil => exact lookup?_cons_of_named (isNamed_iff.2 rfl)
  | cons e es ih =>
    rw [bind]
    split
    · next hk => exact lookup?_cons_of_named (isNamed_iff.2 (sameKey_text_iff.1 hk))
    · next hk =>
      rw [lookup?_cons_of_not_named fun h => hk (sameKey_text_iff.2 (isNamed_iff.1 h))]
      exact ih

theorem text_sameKey_iff : (text name).sameKey k = true ↔ k = .text name := by
  cases k <;> simp [sameKey, wholeNumber?, eq_comm]

theorem lookup?_bind_of_ne (h : k ≠ .text name) : lookup? (bind k v es) name = lookup? es name := by
  have hother : ∀ {k' : Value}, k'.sameKey k = true → ¬k'.isNamed name = true := by
    intro k' hk hn
    rw [isNamed_iff.1 hn] at hk
    exact h (text_sameKey_iff.1 hk)
  induction es with
  | nil => exact lookup?_cons_of_not_named fun hn => h (isNamed_iff.1 hn)
  | cons e es ih =>
    rw [bind]
    split
    · next hk => rw [lookup?_cons_of_not_named (hother hk), lookup?_cons_of_not_named (hother hk)]
    · by_cases hn : e.1.isNamed name = true
      · rw [lookup?_cons_of_named hn, lookup?_cons_of_named hn]
      · rw [lookup?_cons_of_not_named hn, lookup?_cons_of_not_named hn, ih]

/-! ## Mappings with different texts for keys -/

/-- A value is a text, even if it has halves of surrogate pairs. -/
def IsText (v : Value) : Prop := ∃ s, v.text? = some s

theorem IsText.isKey (h : v.IsText) : v.isKey = true := by
  obtain ⟨s, hs⟩ := h
  cases v <;> first | rfl | cases hs

theorem IsText.sameKey_iff (hv : v.IsText) (hw : w.IsText) : v.sameKey w = true ↔ v = w := by
  obtain ⟨s, hs⟩ := hv
  obtain ⟨t, ht⟩ := hw
  cases v <;> cases hs <;> cases w <;> cases ht <;> simp [sameKey, wholeNumber?]

theorem bind_of_new (hk : k.IsText) (h : ∀ e ∈ es, e.1.IsText ∧ e.1 ≠ k) : bind k v es = es ++ [(k, v)] := by
  induction es with
  | nil => rfl
  | cons e es ih =>
    obtain ⟨⟨htext, hne⟩, hes⟩ := List.forall_mem_cons.1 h
    rw [bind, if_neg fun hs => hne ((htext.sameKey_iff hk).1 hs), ih hes, List.cons_append]

/-- If no key stands twice, what is found does not depend on the order. -/
theorem lookup?_eq_some_iff (h : (es.map (·.1)).Nodup) : lookup? es name = some v ↔ (.text name, v) ∈ es := by
  induction es with
  | nil => simp
  | cons e es ih =>
    obtain ⟨hnew, hes⟩ := List.nodup_cons.1 h
    by_cases hn : e.1.isNamed name = true
    · have he : e.1 = .text name := isNamed_iff.1 hn
      rw [lookup?_cons_of_named hn, List.mem_cons, Option.some_inj]
      constructor
      · rintro rfl
        exact .inl (by rw [← he])
      · rintro (heq | hmem)
        · exact congrArg Prod.snd heq.symm
        · have hkey : Value.text name ∈ es.map (·.1) := List.mem_map_of_mem hmem
          rw [← he] at hkey
          exact absurd hkey hnew
    · rw [lookup?_cons_of_not_named hn, ih hes, List.mem_cons]
      refine ⟨.inr, fun hmem => hmem.resolve_left fun heq => hn (isNamed_iff.2 ?_)⟩
      exact congrArg Prod.fst heq.symm

end EntityGen.Value
