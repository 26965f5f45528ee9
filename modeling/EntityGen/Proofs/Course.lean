import Mathlib.Data.List.Forall2
import EntityGen.Proofs.Run

/-! Runs that perform operations one after the other. -/

namespace EntityGen.Run

variable {τ α β γ : Type}

/-- Operations that all succeed, each with the answer that stands in it. -/
inductive Performed (op : τ → Run τ) : List τ → Journal → Journal → Prop
  | nil : Performed op [] j j
  | cons : outcome (op t) j = (.ok t, j₁) → Performed op ts j₁ j₂ → Performed op (t :: ts) j j₂

/-- What comes of a run that is to perform operations in order: all of them succeed, or the run ends at the
first one that fails, with the failure of that one. -/
inductive Ends (op : τ → Run τ) (a : α) (j : Journal) : List τ → Except Failure α × Journal → Prop
  | whole : Performed op ts j j' → Ends op a j ts (.ok a, j')
  | broken : Performed op done j j₁ → outcome (op t) j₁ = (.error f, j') →
      Ends op a j (done ++ t :: rest) (.error f, j')

/-- A run performs operations in an order that `P` allows for its result. Behind an operation that fails the
order is one that might have been. -/
def Follows (op : τ → Run τ) (P : List τ → α → Prop) (x : Run α) : Prop :=
  ∀ j, ∃ ts a, P ts a ∧ Ends op a j ts (outcome x j)

variable {op : τ → Run τ} {j j' j₁ j₂ : Journal} {a : α} {ts us : List τ} {r : Except Failure α × Journal}
  {P Q : List τ → α → Prop} {x : Run α} {notes : τ → List Event}

theorem Performed.append (h : Performed op ts j j₁) (h' : Performed op us j₁ j₂) :
    Performed op (ts ++ us) j j₂ := by
  induction h with
  | nil => exact h'
  | cons ht _ ih => exact .cons ht (ih h')

theorem Ends.prepend (h : Performed op ts j j₁) (h' : Ends op a j₁ us r) : Ends op a j (ts ++ us) r := by
  cases h' with
  | whole hu => exact .whole (h.append hu)
  | broken hu ht =>
    rw [← List.append_assoc]
    exact .broken (h.append hu) ht

namespace Follows

theorem mono (h : Follows op P x) (hPQ : ∀ ts a, P ts a → Q ts a) : Follows op Q x := by
  intro j
  obtain ⟨ts, a, hP, he⟩ := h j
  exact ⟨ts, a, hPQ ts a hP, he⟩

theorem pure (h : P [] a) : Follows op P (pure a) := fun _ => ⟨[], a, h, .whole .nil⟩

theorem bind {f : α → Run β} {Q : List τ → β → Prop} (hx : Follows op P x)
    (hf : ∀ ts a, P ts a → Follows op (fun us b => Q (ts ++ us) b) (f a)) : Follows op Q (x >>= f) := by
  intro j
  obtain ⟨ts, a, hP, hx⟩ := hx j
  rw [outcome_bind]
  generalize outcome x j = r at hx
  cases hx with
  | @whole _ j₁ hp =>
    obtain ⟨us, b, hQ, he⟩ := hf ts a hP j₁
    exact ⟨ts ++ us, b, hQ, he.prepend hp⟩
  | @broken done j₁ t g j₂ rest hp ht =>
    -- What would have come after the failure is taken from a run that starts anywhere.
    obtain ⟨us, b, hQ, _⟩ := hf _ a hP j
    refine ⟨_, b, hQ, ?_⟩
    rw [List.append_assoc, List.cons_append]
    exact .broken hp ht

theorem one [Inhabited α] (mk : α → τ) (h : ∀ a, op (mk a) = mk <$> x) :
    Follows op (fun ts a => ts = [mk a]) x := by
  intro j
  have hmk : ∀ a, outcome (op (mk a)) j = ((outcome x j).1.map mk, (outcome x j).2) := by
    intro a
    rw [h, outcome_map]
  rcases hx : outcome x j with ⟨f | a, j'⟩
  · -- Any answer may stand in an operation that fails.
    refine ⟨[mk default], default, rfl, .broken (.nil : Performed op [] j j) ?_⟩
    rw [hmk, hx]
    rfl
  · refine ⟨[mk a], a, rfl, .whole (.cons ?_ .nil)⟩
    rw [hmk, hx]
    rfl

/-- A loop performs the operations of one round after those of the other. -/
theorem mapM {f : α → Run β} {R : α → γ → Prop} (steps : γ → List τ) (value : γ → β) {as : List α}
    (hf : ∀ a ∈ as, Follows op (fun ts b => ∃ g, R a g ∧ ts = steps g ∧ b = value g) (f a)) :
    Follows op (fun ts bs => ∃ gs, List.Forall₂ R as gs ∧ ts = gs.flatMap steps ∧ bs = gs.map value)
      (as.mapM f) := by
  induction as with
  | nil => exact .pure ⟨[], .nil, rfl, rfl⟩
  | cons a as ih =>
    obtain ⟨ha, has⟩ := List.forall_mem_cons.1 hf
    rw [List.mapM_cons]
    refine ha.bind ?_
    rintro _ _ ⟨g, hg, rfl, rfl⟩
    refine (ih has).bind ?_
    rintro _ _ ⟨gs, hgs, rfl, rfl⟩
    refine .pure ⟨g :: gs, .cons hg hgs, ?_, rfl⟩
    rw [List.append_nil, List.flatMap_cons]

end Follows

/-! What is noted on the way. -/

/-- An operation notes what `notes` says. Nothing more is noted of one that fails, and perhaps nothing. -/
def Notes (op : τ → Run τ) (notes : τ → List Event) : Prop :=
  ∀ t j, (outcome (op t) j).2.events = j.events ++ notes t ∨
    (∃ f, (outcome (op t) j).1 = .error f) ∧ (outcome (op t) j).2.events = j.events

theorem Performed.events (hn : Notes op notes) (h : Performed op ts j j') :
    j'.events = j.events ++ ts.flatMap notes := by
  induction h with
  | nil => rw [List.flatMap_nil, List.append_nil]
  | @cons t j j₁ ts j₂ ht _ ih =>
    rcases hn t j with he | ⟨⟨f, hf⟩, _⟩
    · rw [ht] at he
      rw [ih, he, List.flatMap_cons, List.append_assoc]
    · rw [ht] at hf
      cases hf

/-- A run notes what its operations note, as far as it comes. -/
theorem Ends.events (hn : Notes op notes) (h : Ends op a j ts r) :
    ∃ es, es <+: ts.flatMap notes ∧ r.2.events = j.events ++ es ∧ (r.1.isOk → es = ts.flatMap notes) := by
  cases h with
  | whole hp => exact ⟨_, List.prefix_rfl, hp.events hn, fun _ => rfl⟩
  | @broken done j₁ t f j₂ rest hp ht =>
    rw [List.flatMap_append, List.flatMap_cons]
    rcases hn t j₁ with he | ⟨_, he⟩
    · refine ⟨done.flatMap notes ++ notes t, ?_, ?_, nofun⟩
      · rw [List.prefix_append_right_inj]
        exact List.prefix_append _ _
      · rw [ht] at he
        rw [he, hp.events hn, List.append_assoc]
    · rw [ht] at he
      exact ⟨done.flatMap notes, List.prefix_append _ _, he.trans (hp.events hn), nofun⟩

end EntityGen.Run
