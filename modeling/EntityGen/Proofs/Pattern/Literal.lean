import EntityGen.Proofs.Pattern.Language

/-! Patterns of characters that stand for themselves: how they are read, one alone or two with a bar between
them, and what is matched then. -/

namespace EntityGen.Pattern

/-- A character that stands for itself outside of sets. -/
def IsLiteral (c : Char) : Prop :=
  c ∉ ['.', '^', '$', '*', '+', '?', '\x7b', '[', '\\', '|', '(', ')']

instance (c : Char) : Decidable (IsLiteral c) := inferInstanceAs (Decidable (¬_))

/-- The characters of a text one by one. -/
def literal (s : List Char) : Sequence := s.map fun c => .code false c.toNat

variable {α β : Type} {a : α} {b : β} {r : Read α} {f : α → Read β} {c : Char} {s t u p q : List Char}
  {done : List Item} {is : Sequence} {as : List Sequence} {L : Language Char} {first : Bool} {fuel : Nat}

/-! ## Texts without escapes -/

/-- All of a text is left to read, and no group, name or mode has been seen. -/
def readerAt (s : List Char) : Reader where
  next := s.head?.map .plain
  left := s.tail

/-- What is read off the front of the first text leaves the second one. -/
def Reads (r : Read α) (s : List Char) (a : α) (t : List Char) : Prop :=
  r.run (readerAt s) = .ok (a, readerAt t)

theorem Reads.pure : Reads (pure a) s a s := rfl

theorem Reads.bind (hr : Reads r s a t) (hf : Reads (f a) t b u) : Reads (r >>= f) s b u := by
  rw [Reads, StateT.run_bind, hr]
  exact hf

theorem reads_peek : Reads peek s (s.head?.map .plain) s := rfl

theorem cutToken_eq (hs : '\\' ∉ s) : cutToken s = .ok (s.head?.map .plain, s.tail) := by
  cases s with
  | nil => rfl
  | cons c s =>
    have hc : c ≠ '\\' := fun hc => hs (hc ▸ List.mem_cons_self)
    rw [cutToken]
    · rfl
    · rintro rfl
      exact absurd rfl hc
    · rintro _ _ rfl
      exact absurd rfl hc

-- The token behind the next one is cut off ahead of time, so what is left must not begin with a backslash either.
theorem reads_next (hs : '\\' ∉ s) : Reads next (c :: s) (some (.plain c)) s := by
  simp [Reads, next, readerAt, cutToken_eq hs]

theorem reads_discard (hs : '\\' ∉ s) : Reads (discard next) (c :: s) () s := by
  have hmap : discard next = (fun _ => ()) <$> next := rfl
  rw [hmap, ← bind_pure_comp]
  exact (reads_next hs).bind .pure

theorem reads_take_self (hs : '\\' ∉ s) : Reads (take c) (c :: s) true s := by
  have hnext : (c :: s).head?.map Token.plain = some (.plain c) := rfl
  refine reads_peek.bind ?_
  rw [if_pos hnext]
  exact (reads_discard hs).bind .pure

theorem reads_take_nil : Reads (take c) [] false [] := rfl

/-! ## Literal texts -/

theorem IsLiteral.backslash_notMem (hp : ∀ c ∈ p, IsLiteral c) : '\\' ∉ p := fun h => by
  simpa [IsLiteral] using hp _ h

theorem reads_items_literal (hc : IsLiteral c) (hs : '\\' ∉ s)
    (h : Reads (items fuel first false (.code false c.toNat :: done)) s is t) :
    Reads (items (fuel + 1) first false done) (c :: s) is t := by
  simp only [IsLiteral, List.mem_cons, List.not_mem_nil, or_false, not_or] at hc
  rw [items]
  refine reads_peek.bind ?_
  simpa [hc] using (reads_discard hs).bind h

/-- Where a sequence ends: with the text, or before a bar. -/
def IsEnd (s : List Char) : Prop := s = [] ∨ ∃ q, s = '|' :: q

theorem reads_items_end (hs : IsEnd s) : Reads (items (fuel + 1) first false done) s (flatten done.reverse) s := by
  rw [items]
  rcases hs with rfl | ⟨q, rfl⟩ <;> rfl

/-- A literal text is read one character at a time, as far as the sequence goes. -/
theorem reads_items_append (hp : ∀ c ∈ p, IsLiteral c) (hs : '\\' ∉ s) (hend : IsEnd s) (hfuel : p.length < fuel) :
    Reads (items fuel first false done) (p ++ s) (flatten (done.reverse ++ literal p)) s := by
  induction p generalizing done fuel with
  | nil =>
    obtain ⟨fuel, rfl⟩ := Nat.exists_eq_add_of_lt hfuel
    simpa [literal] using reads_items_end hend
  | cons c p ih =>
    rw [List.forall_mem_cons] at hp
    obtain ⟨fuel, rfl⟩ := Nat.exists_eq_add_of_lt hfuel
    have hmore : '\\' ∉ p ++ s := by
      rw [List.mem_append, not_or]
      exact ⟨IsLiteral.backslash_notMem hp.2, hs⟩
    refine reads_items_literal hp.1 hmore ?_
    have hlength : p.length < (c :: p).length + fuel := by
      rw [List.length_cons]
      omega
    have hrest : Reads (items ((c :: p).length + fuel) first false (.code false c.toNat :: done)) (p ++ s)
        (flatten ((.code false c.toNat :: done).reverse ++ literal p)) s := ih hp.2 hlength
    simpa [literal] using hrest

theorem flatten_literal : flatten (literal p) = literal p := by
  induction p with
  | nil => rfl
  | cons c p ih => exact congrArg (.code false c.toNat :: ·) ih

theorem reads_items (hp : ∀ c ∈ p, IsLiteral c) (hs : '\\' ∉ s) (hend : IsEnd s) (hfuel : p.length < fuel) :
    Reads (items fuel first false []) (p ++ s) (literal p) s := by
  have h : Reads (items fuel first false []) (p ++ s) (flatten (literal p)) s := reads_items_append hp hs hend hfuel
  rwa [flatten_literal] at h

theorem reads_alternatives (hp : ∀ c ∈ p, IsLiteral c) (hfuel : p.length + 1 < fuel) :
    Reads (alternatives fuel true first false) p [literal p] [] := by
  obtain ⟨fuel, rfl⟩ := Nat.exists_eq_add_of_lt hfuel
  have hitems : Reads (items (p.length + 1 + fuel) first false []) (p ++ []) (literal p) [] :=
    reads_items hp List.not_mem_nil (.inl rfl) (by omega)
  rw [List.append_nil] at hitems
  rw [alternatives, Bool.true_and]
  exact hitems.bind (reads_take_nil.bind .pure)

theorem reads_alternatives_pair (hp : ∀ c ∈ p, IsLiteral c) (hq : ∀ c ∈ q, IsLiteral c)
    (hfuel : p.length + q.length + 2 < fuel) :
    Reads (alternatives fuel true first false) (p ++ '|' :: q) [literal p, literal q] [] := by
  obtain ⟨fuel, rfl⟩ := Nat.exists_eq_add_of_lt hfuel
  have hbar : '\\' ∉ '|' :: q := List.not_mem_cons_of_ne_of_not_mem (by decide) (IsLiteral.backslash_notMem hq)
  have hget : Reads get q (readerAt q) q := rfl
  rw [alternatives, Bool.true_and]
  refine (reads_items hp hbar (.inr ⟨q, rfl⟩) (by omega)).bind ?_
  refine (reads_take_self (IsLiteral.backslash_notMem hq)).bind ?_
  exact hget.bind ((reads_alternatives hq (by omega)).bind .pure)

theorem parse_of_reads (hs : '\\' ∉ s) (h : Reads (alternatives (3 * s.length + 3) true true false) s as []) :
    parse s = .ok (joinAlternatives as, {}) := by
  have hstart : (alternatives (3 * s.length + 3) true true false).run
      { next := s.head?.map .plain, left := s.tail } = .ok (as, readerAt []) := h
  rw [parse, cutToken_eq hs]
  simp only [Bind.bind, Except.bind, hstart]
  rfl

theorem parse_literal (hp : ∀ c ∈ p, IsLiteral c) : parse p = .ok (literal p, {}) :=
  parse_of_reads (IsLiteral.backslash_notMem hp) (reads_alternatives hp (by omega))

theorem parse_pair (hp : ∀ c ∈ p, IsLiteral c) (hq : ∀ c ∈ q, IsLiteral c) :
    parse (p ++ '|' :: q) = .ok (joinAlternatives [literal p, literal q], {}) := by
  have hbar : '\\' ∉ p ++ '|' :: q := by
    rw [List.mem_append, List.mem_cons, not_or, not_or]
    exact ⟨IsLiteral.backslash_notMem hp, by decide, IsLiteral.backslash_notMem hq⟩
  refine parse_of_reads hbar (reads_alternatives_pair hp hq ?_)
  rw [List.length_append, List.length_cons]
  omega

/-! ## What literal texts denote -/

theorem singleton_mul_singleton : ({p} * {q} : Language Char) = {p ++ q} := Set.image2_singleton

theorem Denotes.literal_append (his : Denotes is L) : Denotes (literal p ++ is) ({p} * L) := by
  induction p with
  | nil => exact (one_mul L).symm ▸ his
  | cons c p ih =>
    rw [← List.singleton_append, ← singleton_mul_singleton, mul_assoc]
    exact denotes_code.cons ih

theorem denotes_literal : Denotes (literal p) {p} := by
  have h : Denotes (literal p ++ []) ({p} * 1) := denotes_nil.literal_append
  rwa [List.append_nil, mul_one] at h

/-- Literal texts share the characters they start with. -/
theorem commonStart_literal (fuel : Nat) (p q : List Char) :
    ∃ start p' q', commonStart fuel [literal p, literal q] = (literal start, [literal p', literal q']) ∧
      p = start ++ p' ∧ q = start ++ q' := by
  induction fuel generalizing p q with
  | zero => exact ⟨[], p, q, rfl, rfl, rfl⟩
  | succ fuel ih =>
    match p, q with
    | [], q => exact ⟨[], [], q, rfl, rfl, rfl⟩
    | c :: p, [] =>
      refine ⟨[], c :: p, [], ?_, rfl, rfl⟩
      simp [commonStart, literal]
    | c :: p, d :: q =>
      by_cases hcd : c = d
      · subst hcd
        obtain ⟨start, p', q', h, rfl, rfl⟩ := ih p q
        refine ⟨c :: start, p', q', ?_, rfl, rfl⟩
        rw [literal, literal, List.map_cons, List.map_cons, commonStart, if_pos (by simp [Item.isSame])]
        exact congrArg (fun o => (.code false c.toNat :: o.1, o.2)) h
      · refine ⟨[], c :: p, d :: q, ?_, rfl, rfl⟩
        simp [commonStart, literal, Item.isSame, Char.toNat_inj, hcd]

/-- Two literal texts are a set if both are one character. -/
theorem setOf?_literal {ms : List Member} (h : setOf? [literal p, literal q] = some ms) :
    ∃ c d, p = [c] ∧ q = [d] ∧ ms = [.code c.toNat, .code d.toNat] := by
  match p, q with
  | [c], [d] => exact ⟨c, d, rfl, rfl, (Option.some.inj h).symm⟩
  | [], _ => cases h
  | _ :: _ :: _, _ => cases h
  | [_], [] => cases h
  | [_], _ :: _ :: _ => cases h

theorem denotes_joinAlternatives : Denotes (joinAlternatives [literal p, literal q]) ({p} + {q}) := by
  obtain ⟨start, p', q', hstart, hp, hq⟩ := commonStart_literal ([literal p, literal q].flatten.length + 1) p q
  have hlanguage : ({p} + {q} : Language Char) = {start} * ({p'} + {q'}) := by
    rw [mul_add, singleton_mul_singleton, singleton_mul_singleton, hp, hq]
  rw [joinAlternatives, hstart, hlanguage]
  · dsimp only
    split
    · next ms hms =>
      obtain ⟨c, d, rfl, rfl, rfl⟩ := setOf?_literal hms
      exact denotes_set.literal_append
    · exact (denotes_literal.branch denotes_literal).literal_append
  · simp

end EntityGen.Pattern
