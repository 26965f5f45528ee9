import EntityGen.Journal
import EntityGen.Proofs.Outcome

/-! What comes of the steps of a run. -/

namespace EntityGen.Run

variable {α β : Type} {j : Journal}

theorem outcome_note (e : Event) (j : Journal) :
    outcome (note e) j = (.ok (), { j with events := j.events ++ [e] }) := rfl

theorem calls_append (d d' : Disk) (es es' : List Event) :
    (Journal.mk d (es ++ es')).calls = (es'.filterMap Event.call?).reverse ++ (Journal.mk d' es).calls := by
  simp [Journal.calls]

theorem outcome_note_bind (e : Event) (f : Unit → Run β) (j : Journal) :
    outcome (note e >>= f) j = outcome (f ()) ⟨j.disk, j.events ++ [e]⟩ := by
  rw [outcome_bind, outcome_note]

def failureOf (fault : Refusal → Failure) : Trouble → Failure
  | .refusal r => fault r
  | .nul => .data .nulInPath

theorem outcome_act (fault : Refusal → Failure) (a : Action α) (j : Journal) : outcome (act fault a) j =
    ((outcome a j.disk).1.mapError (failureOf fault), { j with disk := (outcome a j.disk).2 }) := by
  have h : a.run.run j.disk = outcome a j.disk := rfl
  rw [act, outcome_bind, outcome_get]
  dsimp only
  rw [h]
  rcases outcome a j.disk with ⟨(_ | _) | _, d⟩ <;> rfl

theorem outcome_ask (q : Disk → Except Refusal α) (j : Journal) :
    outcome (ask q) j = ((q j.disk).mapError fun r => .data (.refused r), j) := by
  simp only [ask, outcome_bind, outcome_get]
  cases q j.disk <;> rfl

theorem outcome_call (c : Call) (answer : List Call → Except Failure α) (j : Journal) :
    outcome (call c answer) j = (answer j.calls, { j with events := j.events ++ [.called c] }) := by
  simp only [call, outcome_bind, outcome_get, outcome_note]
  cases answer j.calls <;> rfl

theorem outcome_ofExcept (r : Except Failure α) (j : Journal) :
    outcome (MonadExcept.ofExcept r : Run α) j = (r, j) := by
  cases r <;> rfl

theorem ask_preserves (I : Journal → Prop) (q : Disk → Except Refusal α) : Preserves I (ask q) := by
  intro j h
  rwa [outcome_ask]

theorem ask_bind_preserves {I : Journal → Prop} {q : Disk → Except Refusal α} {f : α → Run β}
    (hf : ∀ j a, I j → q j.disk = .ok a → I (outcome (f a) j).2) : Preserves I (ask q >>= f) := by
  intro j h
  rw [outcome_bind, outcome_ask]
  cases hq : q j.disk with
  | error r => exact h
  | ok a => exact hf j a h hq

theorem ask_bind_succeeds {I : Journal → Prop} {q : Disk → Except Refusal α} {f : α → Run β}
    (hq : ∀ j, I j → ∃ a, q j.disk = .ok a)
    (hf : ∀ j a, I j → q j.disk = .ok a → ∃ b, (outcome (f a) j).1 = .ok b) : Succeeds I (ask q >>= f) := by
  intro j h
  obtain ⟨a, ha⟩ := hq j h
  rw [outcome_bind, outcome_ask, ha]
  exact hf j a h ha

theorem act_preserves {I : Disk → Prop} (fault : Refusal → Failure) {a : Action α} (ha : Preserves I a) :
    Preserves (fun j => I j.disk) (act fault a) := by
  intro j h
  rw [outcome_act]
  exact ha j.disk h

theorem act_silent {es : List Event} (fault : Refusal → Failure) (a : Action α) :
    Preserves (fun j => j.events = es) (act fault a) := by
  intro j h
  rwa [outcome_act]

end EntityGen.Run
