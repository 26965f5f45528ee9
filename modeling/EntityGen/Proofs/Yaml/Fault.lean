import EntityGen.Yaml.Cursor

/-! Readings that have no value only for a cause. -/

namespace EntityGen.Yaml

variable {α β σ : Type} {cause : DataFault → Prop} {good : α → Prop}

/-- If there is a result, it is good. Otherwise a rule of the format is broken, or the fault has a cause. -/
def Explained (cause : DataFault → Prop) (good : α → Prop) : Except Fault α → Prop
  | .ok a => good a
  | .error .malformed => True
  | .error (.data fault) => cause fault

namespace Explained

theorem ok {a : α} (h : good a) : Explained cause good (.ok a) := h

theorem malformed : Explained cause good (.error .malformed : Except Fault α) := trivial

theorem data {fault : DataFault} (h : cause fault) :
    Explained cause good (.error (.data fault) : Except Fault α) := h

theorem error_iff {f : Fault} :
    Explained cause good (.error f : Except Fault α) ↔ ∀ fault, f = .data fault → cause fault := by
  cases f with
  | malformed => exact iff_of_true trivial nofun
  | data fault => exact ⟨fun h _ hf => Fault.data.inj hf ▸ h, fun h => h fault rfl⟩

theorem bind {x : Except Fault α} {f : α → Except Fault β} {good' : β → Prop} (hx : Explained cause good x)
    (hf : ∀ a, good a → Explained cause good' (f a)) : Explained cause good' (x >>= f) := by
  cases x with
  | ok a => exact hf a hx
  | error e => exact error_iff.2 (error_iff.1 hx)

theorem mono {good' : α → Prop} {x : Except Fault α} (hx : Explained cause good x)
    (h : ∀ a, good a → good' a) : Explained cause good' x := by
  cases x with
  | ok a => exact h a hx
  | error e => exact error_iff.2 (error_iff.1 hx)

theorem imp {cause' : DataFault → Prop} {x : Except Fault α} (hx : Explained cause good x)
    (h : ∀ fault, cause fault → cause' fault) : Explained cause' good x := by
  cases x with
  | ok a => exact hx
  | error e => exact error_iff.2 fun fault he => h fault (error_iff.1 hx fault he)

theorem map {x : Except Fault α} {f : α → β} {good' : β → Prop} (hx : Explained cause good x)
    (hf : ∀ a, good a → good' (f a)) : Explained cause good' (x.map f) := by
  cases x with
  | ok a => exact hf a hx
  | error e => exact error_iff.2 (error_iff.1 hx)

theorem foldlM {f : α → β → Except Fault α} {bs : List β} (hf : ∀ a b, good a → Explained cause good (f a b))
    {a : α} (ha : good a) : Explained cause good (bs.foldlM f a) := by
  induction bs generalizing a with
  | nil => exact ha
  | cons b bs ih =>
    rw [List.foldlM_cons]
    exact (hf a b ha).bind fun _ ha' => ih ha'

theorem cause_of_eq {x : Except Fault α} (h : Explained cause good x) {fault : DataFault}
    (hx : x = .error (.data fault)) : cause fault := by
  rwa [hx] at h

end Explained

/-- From every state with a property the computation is explained, and what it leaves has another one. -/
def Leads (cause : DataFault → Prop) (before : σ → Prop) (x : StateT σ (Except Fault) α)
    (after : α → σ → Prop) : Prop :=
  ∀ s, before s → Explained cause (fun r => after r.1 r.2) (x.run s)

namespace Leads

variable {before before' : σ → Prop} {after : α → σ → Prop} {x : StateT σ (Except Fault) α}

theorem pure {a : α} (h : ∀ s, before s → after a s) :
    Leads cause before (pure a : StateT σ (Except Fault) α) after := h

theorem malformed : Leads cause before (throw .malformed : StateT σ (Except Fault) α) after :=
  fun _ _ => trivial

theorem data {fault : DataFault} (h : ∀ s, before s → cause fault) :
    Leads cause before (throw (.data fault) : StateT σ (Except Fault) α) after := h

theorem bind {f : α → StateT σ (Except Fault) β} {after' : β → σ → Prop} (hx : Leads cause before x after)
    (hf : ∀ a, Leads cause (after a) (f a) after') : Leads cause before (x >>= f) after' :=
  fun s hs => (hx s hs).bind fun r hr => hf r.1 r.2 hr

/-- A computation that has nothing to do with the state leaves it. -/
theorem lift_bind {y : Except Fault β} {good : β → Prop} {f : β → StateT σ (Except Fault) α}
    (hy : Explained cause good y) (hf : ∀ b, good b → Leads cause before (f b) after) :
    Leads cause before (liftM y >>= f) after := by
  cases y with
  | ok b => exact hf b hy
  | error e => exact fun _ _ => Explained.error_iff.2 (Explained.error_iff.1 hy)

theorem mono {after' : α → σ → Prop} (hx : Leads cause before x after) (hb : ∀ s, before' s → before s)
    (ha : ∀ a s, after a s → after' a s) : Leads cause before' x after' :=
  fun s hs => (hx s (hb s hs)).mono fun r hr => ha r.1 r.2 hr

theorem get : Leads cause before (get : StateT σ (Except Fault) σ) fun _ => before := fun _ hs => hs

theorem get_bind {f : σ → StateT σ (Except Fault) α} (hf : ∀ s, before s → Leads cause (· = s) (f s) after) :
    Leads cause before (MonadState.get >>= f) after := fun s hs => hf s hs s rfl

theorem modify {f : σ → σ} {after : PUnit → σ → Prop} (h : ∀ s, before s → after ⟨⟩ (f s)) :
    Leads cause before (modify f : StateT σ (Except Fault) PUnit) after := h

theorem set {s' : σ} {after : PUnit → σ → Prop} (h : ∀ s, before s → after ⟨⟩ s') :
    Leads cause before (set s' : StateT σ (Except Fault) PUnit) after := h

theorem mapM {inv : σ → Prop} {f : β → StateT σ (Except Fault) α} {bs : List β}
    (hf : ∀ b ∈ bs, Leads cause inv (f b) fun _ => inv) : Leads cause inv (bs.mapM f) fun _ => inv := by
  induction bs with
  | nil => exact .pure fun _ h => h
  | cons b bs ih =>
    obtain ⟨hb, hbs⟩ := List.forall_mem_cons.1 hf
    rw [List.mapM_cons]
    exact hb.bind fun _ => (ih hbs).bind fun _ => .pure fun _ h => h

theorem foldlM {inv : σ → Prop} {f : α → β → StateT σ (Except Fault) α} {bs : List β}
    (hf : ∀ a, ∀ b ∈ bs, Leads cause inv (f a b) fun _ => inv) (a : α) :
    Leads cause inv (bs.foldlM f a) fun _ => inv := by
  induction bs generalizing a with
  | nil => exact .pure fun _ h => h
  | cons b bs ih =>
    rw [List.foldlM_cons]
    refine (hf a b List.mem_cons_self).bind fun a' => ?_
    exact ih (fun a b hb => hf a b (List.mem_cons_of_mem _ hb)) a'

theorem forM {inv : σ → Prop} {f : β → StateT σ (Except Fault) PUnit} {bs : List β}
    (hf : ∀ b ∈ bs, Leads cause inv (f b) fun _ => inv) : Leads cause inv (bs.forM f) fun _ => inv := by
  induction bs with
  | nil => exact .pure fun _ h => h
  | cons b bs ih =>
    obtain ⟨hb, hbs⟩ := List.forall_mem_cons.1 hf
    exact hb.bind fun _ => ih hbs

end Leads
end EntityGen.Yaml
