import EntityGen.Proofs.Run

/-! Failures that the configuration is not to blame for. -/

namespace EntityGen

variable {α β : Type}

/-- Whatever fails, the configuration is not to blame. -/
def Blameless (x : Except Failure α) : Prop := ∀ f, x = .error f → f.isConfiguration = false

namespace Blameless

theorem ok (a : α) : Blameless (.ok a) := nofun

theorem error {f : Failure} (h : f.isConfiguration = false) : Blameless (.error f : Except Failure α) := by
  rintro _ ⟨⟩
  exact h

theorem bind {x : Except Failure α} {f : α → Except Failure β} (hx : Blameless x) (hf : ∀ a, Blameless (f a)) :
    Blameless (x >>= f) := by
  cases x with
  | ok a => exact hf a
  | error e => exact error (hx e rfl)

theorem map {x : Except Failure α} {f : α → β} (hx : Blameless x) : Blameless (x.map f) := by
  cases x with
  | ok a => exact ok (f a)
  | error e => exact error (hx e rfl)

theorem mapError {ε : Type} {x : Except ε α} {f : ε → Failure} (hf : ∀ e, (f e).isConfiguration = false) :
    Blameless (x.mapError f) := by
  cases x with
  | ok a => exact ok a
  | error e => exact error (hf e)

theorem mapM {f : α → Except Failure β} (hf : ∀ a, Blameless (f a)) (as : List α) : Blameless (as.mapM f) := by
  induction as with
  | nil => exact ok []
  | cons a as ih =>
    rw [List.mapM_cons]
    exact (hf a).bind fun b => ih.bind fun bs => ok (b :: bs)

end Blameless

namespace Run

/-- However a run starts, the configuration is not to blame for its failure. -/
def Blameless (x : Run α) : Prop := ∀ j, EntityGen.Blameless (outcome x j).1

namespace Blameless

theorem pure (a : α) : Blameless (pure a) := fun _ => .ok a

theorem bind {x : Run α} {f : α → Run β} (hx : x.Blameless) (hf : ∀ a, (f a).Blameless) :
    Blameless (x >>= f) := by
  intro j
  have h := hx j
  rw [outcome_bind]
  generalize outcome x j = r at h
  rcases r with ⟨e | a, j'⟩
  · exact .error (h e rfl)
  · exact hf a j'

theorem map {x : Run α} (hx : x.Blameless) (f : α → β) : Blameless (f <$> x) := by
  intro j
  rw [outcome_map]
  exact (hx j).map

theorem forM {f : α → Run PUnit} (hf : ∀ a, (f a).Blameless) (as : List α) : Blameless (as.forM f) := by
  induction as with
  | nil => exact .pure _
  | cons a as ih => exact (hf a).bind fun _ => ih

theorem get : Blameless (get : Run Journal) := fun j => .ok j

theorem note (e : Event) : Blameless (note e) := fun _ => .ok ()

theorem act {fault : Refusal → Failure} (h : ∀ r, (fault r).isConfiguration = false) (a : Action α) :
    Blameless (act fault a) := by
  intro j
  rw [outcome_act]
  refine .mapError fun t => ?_
  cases t with
  | refusal r => exact h r
  | nul => rfl

theorem ask (q : Disk → Except Refusal α) : Blameless (ask q) := by
  intro j
  rw [outcome_ask]
  exact .mapError fun _ => rfl

theorem call {c : Call} {answer : List Call → Except Failure α} (h : ∀ before, EntityGen.Blameless (answer before)) :
    Blameless (call c answer) := by
  intro j
  rw [outcome_call]
  exact h j.calls

theorem ofExcept {x : Except Failure α} (h : EntityGen.Blameless x) :
    Blameless (MonadExcept.ofExcept x : Run α) := by
  intro j
  rw [outcome_ofExcept]
  exact h

end Blameless
end Run

end EntityGen
