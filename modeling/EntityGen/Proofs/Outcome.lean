import Mathlib.Data.List.Forall2

/-! What comes of a computation that may fail and changes a state. -/

namespace EntityGen

variable {ε σ α β γ : Type}

theorem bind_eq_ok_iff {x : Except ε α} {f : α → Except ε β} {b : β} :
    x >>= f = .ok b ↔ ∃ a, x = .ok a ∧ f a = .ok b := by
  cases x <;> simp [bind, Except.bind]

theorem except_map_bind (x : Except ε α) (f : α → Except ε β) (g : β → γ) :
    (x >>= f).map g = x >>= fun a => (f a).map g := by
  cases x <;> rfl

theorem except_bind_map (x : Except ε α) (f : α → β) (g : β → Except ε γ) : x.map f >>= g = x >>= fun a => g (f a) := by
  cases x <;> rfl

/-- Of two computations one after the other, the results go together. -/
theorem together_eq_ok_iff {x : Except ε α} {y : Except ε β} {f : α → β → γ} {c : γ} :
    (do return f (← x) (← y)) = Except.ok c ↔ ∃ a b, x = .ok a ∧ y = .ok b ∧ f a b = c := by
  simp only [bind_eq_ok_iff]
  constructor
  · rintro ⟨a, ha, b, hb, ⟨⟩⟩
    exact ⟨a, b, ha, hb, rfl⟩
  · rintro ⟨a, b, ha, hb, rfl⟩
    exact ⟨a, ha, b, hb, rfl⟩

theorem together_eq_error {x : Except ε α} {y : Except ε β} {f : α → β → γ} {e : ε}
    (h : (do return f (← x) (← y)) = Except.error e) : x = .error e ∨ y = .error e := by
  cases x with
  | error e' =>
    cases h
    exact .inl rfl
  | ok a =>
    cases y with
    | error e' =>
      cases h
      exact .inr rfl
    | ok b => cases h

@[simp] theorem mapError_ok {ε' : Type} (f : ε → ε') (a : α) :
    (Except.ok a : Except ε α).mapError f = .ok a := rfl

@[simp] theorem mapError_error {ε' : Type} (f : ε → ε') (e : ε) :
    (Except.error e : Except ε α).mapError f = .error (f e) := rfl

theorem exists_forall₂ {R : α → β → Prop} {as : List α} (h : ∀ a ∈ as, ∃ b, R a b) :
    ∃ bs, List.Forall₂ R as bs := by
  induction as with
  | nil => exact ⟨[], .nil⟩
  | cons a as ih =>
    obtain ⟨⟨b, hb⟩, has⟩ := List.forall_mem_cons.1 h
    obtain ⟨bs, hbs⟩ := ih has
    exact ⟨b :: bs, .cons hb hbs⟩

theorem mapM_eq_some_iff {f : α → Option β} {as : List α} {bs : List β} :
    as.mapM f = some bs ↔ List.Forall₂ (fun a b => f a = some b) as bs := by
  induction as generalizing bs with
  | nil => simp [eq_comm]
  | cons a as ih =>
    rw [List.mapM_cons, List.forall₂_cons_left_iff]
    constructor
    · intro h
      obtain ⟨b, hb, h⟩ := Option.bind_eq_some_iff.1 h
      obtain ⟨bs, hbs, h⟩ := Option.bind_eq_some_iff.1 h
      cases h
      exact ⟨b, bs, hb, ih.1 hbs, rfl⟩
    · rintro ⟨b, bs, hb, hbs, rfl⟩
      rw [hb, ih.2 hbs]
      rfl

theorem mapM_eq_ok_iff {f : α → Except ε β} {as : List α} {bs : List β} :
    as.mapM f = .ok bs ↔ List.Forall₂ (fun a b => f a = .ok b) as bs := by
  induction as generalizing bs with
  | nil => simp [eq_comm, pure, Except.pure]
  | cons a as ih =>
    rw [List.mapM_cons, List.forall₂_cons_left_iff]
    constructor
    · intro h
      obtain ⟨b, hb, h⟩ := bind_eq_ok_iff.1 h
      obtain ⟨bs, hbs, h⟩ := bind_eq_ok_iff.1 h
      cases h
      exact ⟨b, bs, hb, ih.1 hbs, rfl⟩
    · rintro ⟨b, bs, hb, hbs, rfl⟩
      rw [hb, ih.2 hbs]
      rfl

theorem exists_mapM {f : α → Except ε β} {as : List α} (hf : ∀ a ∈ as, ∃ b, f a = .ok b) :
    ∃ bs, as.mapM f = .ok bs := by
  obtain ⟨bs, hbs⟩ := exists_forall₂ hf
  exact ⟨bs, mapM_eq_ok_iff.2 hbs⟩

theorem mapM_eq_error {f : α → Except ε β} {as : List α} {e : ε} (h : as.mapM f = .error e) :
    ∃ a ∈ as, f a = .error e := by
  induction as with
  | nil => cases h
  | cons a as ih =>
    rw [List.mapM_cons] at h
    cases ha : f a with
    | error e' =>
      rw [ha] at h
      cases h
      exact ⟨a, List.mem_cons_self, ha⟩
    | ok b =>
      cases has : as.mapM f with
      | error e' =>
        rw [ha, has] at h
        cases h
        obtain ⟨a', ha', he⟩ := ih has
        exact ⟨a', List.mem_cons_of_mem a ha', he⟩
      | ok bs =>
        rw [ha, has] at h
        cases h

/-- Two passes over a list are one if the first of them comes to an end. -/
theorem mapM_mapM {f : α → Except ε β} {g : β → Except ε γ} {as : List α} {bs : List β}
    (h : as.mapM f = .ok bs) : bs.mapM g = as.mapM fun a => f a >>= g := by
  have hall := mapM_eq_ok_iff.1 h
  clear h
  induction hall with
  | nil => rfl
  | cons hab _ ih =>
    rw [List.mapM_cons, List.mapM_cons, hab, ih]
    rfl

theorem mapM_congr_of_forall₂ {f : α → Except ε γ} {g : β → Except ε γ} {as : List α} {bs : List β}
    (h : List.Forall₂ (fun a b => f a = g b) as bs) : as.mapM f = bs.mapM g := by
  induction h with
  | nil => rfl
  | cons hab _ ih => rw [List.mapM_cons, List.mapM_cons, hab, ih]

theorem exists_of_forall₂ {R : α → β → Prop} {as : List α} {bs : List β} (h : List.Forall₂ R as bs) :
    (∀ a ∈ as, ∃ b ∈ bs, R a b) ∧ ∀ b ∈ bs, ∃ a ∈ as, R a b := by
  induction h with
  | nil => exact ⟨List.forall_mem_nil _, List.forall_mem_nil _⟩
  | @cons a b as bs hab _ ih =>
    obtain ⟨has, hbs⟩ := ih
    refine ⟨List.forall_mem_cons.2 ⟨⟨b, List.mem_cons_self, hab⟩, fun a' ha => ?_⟩,
      List.forall_mem_cons.2 ⟨⟨a, List.mem_cons_self, hab⟩, fun b' hb => ?_⟩⟩
    · obtain ⟨b', hb, h⟩ := has a' ha
      exact ⟨b', List.mem_cons_of_mem b hb, h⟩
    · obtain ⟨a', ha, h⟩ := hbs b' hb
      exact ⟨a', List.mem_cons_of_mem a ha, h⟩

/-- Items that are related step by step have lists in between. -/
theorem exists_between {R : α → β → Prop} {S : β → γ → Prop} {as : List α} {cs : List γ}
    (h : List.Forall₂ (fun a c => ∃ b, R a b ∧ S b c) as cs) : ∃ bs, List.Forall₂ R as bs ∧ List.Forall₂ S bs cs := by
  induction h with
  | nil => exact ⟨[], .nil, .nil⟩
  | cons hac _ ih =>
    obtain ⟨b, hab, hbc⟩ := hac
    obtain ⟨bs, has, hcs⟩ := ih
    exact ⟨b :: bs, .cons hab has, .cons hbc hcs⟩

/-- The result of a computation, and the state that it leaves. -/
def outcome (x : ExceptT ε (StateM σ) α) (s : σ) : Except ε α × σ := x.run.run s

@[simp] theorem outcome_pure (a : α) (s : σ) :
    outcome (pure a : ExceptT ε (StateM σ) α) s = (.ok a, s) := rfl

@[simp] theorem outcome_throw (e : ε) (s : σ) :
    outcome (throw e : ExceptT ε (StateM σ) α) s = (.error e, s) := rfl

@[simp] theorem outcome_get (s : σ) : outcome (get : ExceptT ε (StateM σ) σ) s = (.ok s, s) := rfl

@[simp] theorem outcome_set (s s' : σ) :
    outcome (set s' : ExceptT ε (StateM σ) PUnit) s = (.ok ⟨⟩, s') := rfl

@[simp] theorem outcome_modify (f : σ → σ) (s : σ) :
    outcome (modify f : ExceptT ε (StateM σ) PUnit) s = (.ok ⟨⟩, f s) := rfl

theorem outcome_bind (x : ExceptT ε (StateM σ) α) (f : α → ExceptT ε (StateM σ) β) (s : σ) :
    outcome (x >>= f) s = match outcome x s with
      | (.ok a, s') => outcome (f a) s'
      | (.error e, s') => (.error e, s') := by
  change (match (outcome x s).1 with
    | .ok a => (f a).run
    | .error e => pure (.error e)).run (outcome x s).2 = _
  rcases outcome x s with ⟨_ | _, s'⟩ <;> rfl

theorem outcome_map (x : ExceptT ε (StateM σ) α) (f : α → β) (s : σ) :
    outcome (f <$> x) s = ((outcome x s).1.map f, (outcome x s).2) := by
  rw [← bind_pure_comp, outcome_bind]
  rcases outcome x s with ⟨_ | _, s'⟩ <;> rfl

theorem outcome_tryCatch (x : ExceptT ε (StateM σ) α) (f : ε → ExceptT ε (StateM σ) α) (s : σ) :
    outcome (tryCatch x f) s = match outcome x s with
      | (.ok a, s') => (.ok a, s')
      | (.error e, s') => outcome (f e) s' := by
  change (match (outcome x s).1 with
    | .ok a => pure (Except.ok a)
    | .error e => (f e).run).run (outcome x s).2 = _
  rcases outcome x s with ⟨_ | _, s'⟩ <;> rfl

theorem outcome_bind_eq_ok_iff {x : ExceptT ε (StateM σ) α} {f : α → ExceptT ε (StateM σ) β} {s s'' : σ}
    {b : β} : outcome (x >>= f) s = (.ok b, s'') ↔
      ∃ a s', outcome x s = (.ok a, s') ∧ outcome (f a) s' = (.ok b, s'') := by
  rw [outcome_bind]
  rcases outcome x s with ⟨e | a, s'⟩
  · simp
  · constructor
    · exact fun h => ⟨a, s', rfl, h⟩
    · rintro ⟨_, _, h, h'⟩
      cases h
      exact h'

theorem outcome_mapM_cons_eq_ok_iff {f : α → ExceptT ε (StateM σ) β} {a : α} {as : List α} {bs : List β}
    {s s'' : σ} : outcome ((a :: as).mapM f) s = (.ok bs, s'') ↔
      ∃ b s' rest, outcome (f a) s = (.ok b, s') ∧ outcome (as.mapM f) s' = (.ok rest, s'') ∧
        bs = b :: rest := by
  rw [List.mapM_cons]
  simp only [outcome_bind_eq_ok_iff]
  constructor
  · rintro ⟨b, s', hb, rest, _, hr, h⟩
    cases h
    exact ⟨b, s', rest, hb, hr, rfl⟩
  · rintro ⟨b, s', rest, hb, hr, rfl⟩
    exact ⟨b, s', hb, rest, s'', hr, rfl⟩

@[simp] theorem outcome_forM_nil (f : α → ExceptT ε (StateM σ) PUnit) (s : σ) :
    outcome (([] : List α).forM f) s = (.ok ⟨⟩, s) := rfl

theorem outcome_forM_cons (f : α → ExceptT ε (StateM σ) PUnit) (a : α) (as : List α) (s : σ) :
    outcome ((a :: as).forM f) s = match outcome (f a) s with
      | (.ok _, s') => outcome (as.forM f) s'
      | (.error e, s') => (.error e, s') := by
  rw [List.forM, outcome_bind]
  rcases outcome (f a) s with ⟨_ | _, s'⟩ <;> rfl

theorem outcome_forM_cons_eq_ok_iff {f : α → ExceptT ε (StateM σ) PUnit} {a : α} {as : List α} {s s'' : σ} :
    outcome ((a :: as).forM f) s = (.ok ⟨⟩, s'') ↔
      ∃ s', outcome (f a) s = (.ok ⟨⟩, s') ∧ outcome (as.forM f) s' = (.ok ⟨⟩, s'') := by
  rw [outcome_forM_cons]
  rcases outcome (f a) s with ⟨_ | _, s'⟩ <;> simp

theorem outcome_forM_append_eq_ok_iff {f : α → ExceptT ε (StateM σ) PUnit} {as bs : List α} {s s'' : σ} :
    outcome ((as ++ bs).forM f) s = (.ok ⟨⟩, s'') ↔
      ∃ s', outcome (as.forM f) s = (.ok ⟨⟩, s') ∧ outcome (bs.forM f) s' = (.ok ⟨⟩, s'') := by
  induction as generalizing s with
  | nil =>
    constructor
    · exact fun h => ⟨s, rfl, h⟩
    · rintro ⟨_, h, h'⟩
      cases h
      exact h'
  | cons a as ih =>
    simp only [List.cons_append, outcome_forM_cons_eq_ok_iff, ih]
    constructor
    · rintro ⟨s₁, h₁, s₂, h₂, h₃⟩
      exact ⟨s₂, ⟨s₁, h₁, h₂⟩, h₃⟩
    · rintro ⟨s₂, ⟨s₁, h₁, h₂⟩, h₃⟩
      exact ⟨s₁, h₁, s₂, h₂, h₃⟩

/-- Whatever comes of a computation, it leaves a state with a property that the one before has. -/
def Preserves (I : σ → Prop) (x : ExceptT ε (StateM σ) α) : Prop := ∀ s, I s → I (outcome x s).2

namespace Preserves

variable {I : σ → Prop} {x : ExceptT ε (StateM σ) α}

theorem pure (a : α) : Preserves I (pure a : ExceptT ε (StateM σ) α) := fun _ h => h

theorem after {f : α → ExceptT ε (StateM σ) β} {s : σ} (hx : I (outcome x s).2)
    (hf : ∀ a, Preserves I (f a)) : I (outcome (x >>= f) s).2 := by
  rw [outcome_bind]
  generalize outcome x s = r at hx ⊢
  rcases r with ⟨_ | a, s'⟩
  · exact hx
  · exact hf a s' hx

theorem bind (hx : Preserves I x) {f : α → ExceptT ε (StateM σ) β} (hf : ∀ a, Preserves I (f a)) :
    Preserves I (x >>= f) := fun s h => after (hx s h) hf

theorem tryCatch (hx : Preserves I x) {f : ε → ExceptT ε (StateM σ) α} (hf : ∀ e, Preserves I (f e)) :
    Preserves I (tryCatch x f) := by
  intro s h
  have h := hx s h
  rw [outcome_tryCatch]
  generalize outcome x s = r at h ⊢
  rcases r with ⟨e | _, s'⟩
  · exact hf e s' h
  · exact h

theorem forM {f : α → ExceptT ε (StateM σ) PUnit} {as : List α} (hf : ∀ a ∈ as, Preserves I (f a)) :
    Preserves I (as.forM f) := by
  induction as with
  | nil => exact .pure _
  | cons a as ih =>
    refine .bind (hf a List.mem_cons_self) fun _ => ?_
    exact ih fun b hb => hf b (List.mem_cons_of_mem a hb)

end Preserves

/-- From every state with a property a computation gives a result. -/
def Succeeds (I : σ → Prop) (x : ExceptT ε (StateM σ) α) : Prop := ∀ s, I s → ∃ a, (outcome x s).1 = .ok a

namespace Succeeds

variable {I : σ → Prop} {x : ExceptT ε (StateM σ) α}

theorem pure (a : α) : Succeeds I (pure a : ExceptT ε (StateM σ) α) := fun _ _ => ⟨a, rfl⟩

theorem bind (hx : Succeeds I x) (hp : Preserves I x) {f : α → ExceptT ε (StateM σ) β}
    (hf : ∀ a, Succeeds I (f a)) : Succeeds I (x >>= f) := by
  intro s h
  obtain ⟨a, ha⟩ := hx s h
  have h' := hp s h
  rw [outcome_bind]
  generalize outcome x s = r at ha h' ⊢
  obtain ⟨_, s'⟩ := r
  cases ha
  exact hf a s' h'

end Succeeds

/-! Filtering by a question that may fail. -/

section Filter

variable {f : α → Except ε Bool} {as bs acc : List α}

theorem filterAuxM_of_eq_ok {g : α → Bool} (hg : ∀ a ∈ as, f a = .ok (g a)) :
    as.filterAuxM f acc = .ok ((as.filter g).reverse ++ acc) := by
  induction as generalizing acc with
  | nil => rfl
  | cons a as ih =>
    simp only [List.forall_mem_cons] at hg
    simp only [List.filterAuxM, bind, Except.bind, hg.1, ih hg.2]
    cases h : g a <;> simp [h]

theorem ok_of_filterAuxM (h : as.filterAuxM f acc = .ok bs) : ∀ a ∈ as, ∃ b, f a = .ok b := by
  induction as generalizing acc with
  | nil => nofun
  | cons a as ih =>
    simp only [List.filterAuxM, bind, Except.bind] at h
    cases hf : f a with
    | error e => rw [hf] at h; cases h
    | ok b =>
      rw [hf] at h
      exact List.forall_mem_cons.2 ⟨⟨b, hf⟩, ih h⟩

theorem filterM_eq_map (f : α → Except ε Bool) (as : List α) :
    as.filterM f = (as.filterAuxM f []).map List.reverse := by
  simp only [List.filterM, bind, Except.bind]
  cases as.filterAuxM f [] <;> rfl

theorem filterM_eq_ok_iff :
    as.filterM f = .ok bs ↔ ∃ g : α → Bool, (∀ a ∈ as, f a = .ok (g a)) ∧ bs = as.filter g := by
  rw [filterM_eq_map]
  constructor
  · intro h
    have hg : ∀ a ∈ as, f a = .ok ((f a).toOption.getD false) := by
      intro a ha
      cases hf : as.filterAuxM f [] with
      | error e => rw [hf] at h; cases h
      | ok cs =>
        obtain ⟨b, hb⟩ := ok_of_filterAuxM hf a ha
        rw [hb]
        rfl
    rw [filterAuxM_of_eq_ok hg] at h
    cases h
    exact ⟨_, hg, by simp⟩
  · rintro ⟨g, hg, rfl⟩
    simp [filterAuxM_of_eq_ok hg, Except.map]

theorem filterAuxM_eq_error {e : ε} (h : as.filterAuxM f acc = .error e) : ∃ a ∈ as, f a = .error e := by
  induction as generalizing acc with
  | nil => cases h
  | cons a as ih =>
    simp only [List.filterAuxM, bind, Except.bind] at h
    cases hf : f a with
    | error e' =>
      rw [hf] at h
      cases h
      exact ⟨a, List.mem_cons_self, hf⟩
    | ok b =>
      rw [hf] at h
      obtain ⟨a', ha', he⟩ := ih h
      exact ⟨a', List.mem_cons_of_mem a ha', he⟩

theorem filterM_eq_error {e : ε} (h : as.filterM f = .error e) : ∃ a ∈ as, f a = .error e := by
  rw [filterM_eq_map] at h
  cases hf : as.filterAuxM f [] with
  | error e' =>
    rw [hf] at h
    cases h
    exact filterAuxM_eq_error hf
  | ok cs =>
    rw [hf] at h
    cases h

theorem exists_filterM (hf : ∀ a ∈ as, ∃ b, f a = .ok b) :
    ∃ bs, as.filterM f = .ok bs ∧ bs.Sublist as ∧ ∀ a ∈ bs, f a = .ok true := by
  have hanswer : ∀ a ∈ as, f a = .ok ((f a).toOption.getD false) := by
    intro a ha
    obtain ⟨b, hb⟩ := hf a ha
    rw [hb]
    rfl
  refine ⟨_, filterM_eq_ok_iff.2 ⟨_, hanswer, rfl⟩, List.filter_sublist, fun a ha => ?_⟩
  obtain ⟨ha, htrue⟩ := List.mem_filter.1 ha
  rw [hanswer a ha, htrue]

end Filter

end EntityGen
