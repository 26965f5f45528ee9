import Mathlib
import EntityGen.Proofs.Json.Grammar

/-! Space, words, numbers and strings are read as far as the grammar has them, and no farther. -/

namespace EntityGen.Json

open Number

variable {s t ds rest : List Char} {c : Char} {p q : Char → Bool} {v : Value} {n : Nat}

/-- A text does not start with such a character. -/
def Stops (p : Char → Bool) (s : List Char) : Prop := ∀ c ∈ s.head?, p c = false

namespace Stops

theorem nil : Stops p [] := nofun

theorem cons (hc : p c = false) : Stops p (c :: s) := fun _ h => Option.some.inj h ▸ hc

theorem mono (h : Stops q s) (hpq : ∀ c, p c = true → q c = true) : Stops p s := fun c hc => by
  rw [Bool.eq_false_iff]
  exact fun hp => Bool.eq_false_iff.1 (h c hc) (hpq c hp)

theorem append (hs : Stops p s) (ht : Stops p t) : Stops p (s ++ t) := by
  cases s with
  | nil => exact ht
  | cons c s => exact hs

theorem takeWhile_append (ht : Stops p t) (hs : ∀ c ∈ s, p c = true) : (s ++ t).takeWhile p = s := by
  rw [List.takeWhile_append_of_pos hs]
  cases t with
  | nil => rw [List.takeWhile_nil, List.append_nil]
  | cons c t => rw [List.takeWhile_cons_of_neg (Bool.eq_false_iff.1 (ht c rfl)), List.append_nil]

theorem dropWhile_append (ht : Stops p t) (hs : ∀ c ∈ s, p c = true) : (s ++ t).dropWhile p = t := by
  rw [List.dropWhile_append_of_pos hs]
  cases t with
  | nil => rfl
  | cons c t => exact List.dropWhile_cons_of_neg (Bool.eq_false_iff.1 (ht c rfl))

end Stops

/-! ## Space -/

theorem spaced_skipSpace (s : List Char) : Spaced s (skipSpace s) :=
  ⟨s.takeWhile isSpace, fun _ => List.mem_takeWhile_imp, List.takeWhile_append_dropWhile.symm⟩

theorem Spaced.skipSpace_eq (h : Spaced s rest) (hr : Stops isSpace rest) : skipSpace s = rest := by
  obtain ⟨sp, hsp, rfl⟩ := h
  exact hr.dropWhile_append hsp

theorem Spaced.length_le (h : Spaced s rest) : rest.length ≤ s.length := by
  obtain ⟨sp, -, rfl⟩ := h
  simp

/-! ## Words -/

theorem after?_eq_some_iff {w : List Char} : after? w s = some rest ↔ s = w ++ rest := by
  rw [after?]
  constructor
  · intro h
    split at h
    · next hw =>
      obtain ⟨t, rfl⟩ := List.isPrefixOf_iff_prefix.1 hw
      cases h
      rw [List.drop_left]
    · cases h
  · rintro rfl
    rw [if_pos (List.isPrefixOf_iff_prefix.2 (List.prefix_append w rest)), List.drop_left]

theorem after?_eq_none {w : List Char} (h : ¬w <+: s) : after? w s = none :=
  if_neg fun hw => h (List.isPrefixOf_iff_prefix.1 hw)

/-! ## Numbers -/

theorem IsDigits.exists_cons (h : IsDigits ds) : ∃ d t, ds = d :: t ∧ d.isDigit = true := by
  obtain ⟨d, t, rfl⟩ := List.exists_cons_of_ne_nil h.1
  exact ⟨d, t, rfl, h.2 d List.mem_cons_self⟩

theorem isDigits_takeWhile (hc : c.isDigit = true) : IsDigits ((c :: s).takeWhile Char.isDigit) := by
  refine ⟨?_, fun d hd => List.mem_takeWhile_imp hd⟩
  rw [List.takeWhile_cons_of_pos hc]
  exact List.cons_ne_nil _ _

theorem IsDigits.exists_natOfDigits? (h : IsDigits ds) : ∃ n, natOfDigits? 10 ds = some n :=
  exists_natOfDigits?_iff.2 ⟨h.1, fun c hc => (isDigitOf_ten c).trans (h.2 c hc)⟩

theorem IsFraction.stops (h : IsFraction s) (hp : p '.' = false) : Stops p s := by
  rcases h with rfl | ⟨ds, -, rfl⟩
  · exact .nil
  · exact .cons hp

theorem IsPower.stops (h : IsPower s) (he : p 'e' = false) (hE : p 'E' = false) : Stops p s := by
  rcases h with rfl | ⟨e, sign, ds, hmem, -, -, rfl⟩
  · exact .nil
  · refine .cons ?_
    simp only [List.mem_cons, List.not_mem_nil, or_false] at hmem
    rcases hmem with rfl | rfl
    · exact he
    · exact hE

/-- What a whole number is cut off by. -/
theorem exists_whole (h : (if s.head? = some '0' then ['0'] else s.takeWhile Char.isDigit) = ds) (hds : ds ≠ []) :
    IsWhole ds ∧ s = ds ++ s.drop ds.length := by
  split at h
  · next hzero =>
    subst h
    obtain ⟨t, rfl⟩ := List.head?_eq_some_iff.1 hzero
    exact ⟨⟨⟨hds, by simp⟩, fun _ => rfl⟩, rfl⟩
  · next hzero =>
    have hcut : ds ++ s.dropWhile Char.isDigit = s := h ▸ List.takeWhile_append_dropWhile
    rw [← hcut, List.head?_append_of_ne_nil _ hds] at hzero
    refine ⟨⟨⟨hds, fun c hc => ?_⟩, fun hstart => absurd hstart hzero⟩, ?_⟩
    · rw [← h] at hc
      exact List.mem_takeWhile_imp hc
    · rw [← hcut, List.drop_left]

theorem IsWhole.eq_of_append (h : IsWhole ds) (ht : Stops Char.isDigit t) :
    (if (ds ++ t).head? = some '0' then ['0'] else (ds ++ t).takeWhile Char.isDigit) = ds := by
  rw [List.head?_append_of_ne_nil _ h.1.1, ht.takeWhile_append h.1.2]
  split
  · next hzero => exact (h.2 hzero).symm
  · rfl

theorem exists_fraction (s : List Char) :
    ∃ f fs rest, fraction s = (fs, rest) ∧ IsFraction f ∧ s = f ++ rest ∧ (fs = [] ↔ f = []) := by
  unfold fraction
  split
  · next d rest =>
    split
    · next hd =>
      have hds : IsDigits ((d :: rest).takeWhile Char.isDigit) := isDigits_takeWhile hd
      refine ⟨'.' :: (d :: rest).takeWhile Char.isDigit, _, _, rfl, .inr ⟨_, hds, rfl⟩, ?_, by simp [hds.1]⟩
      rw [List.cons_append, List.takeWhile_append_dropWhile]
    · exact ⟨[], _, _, rfl, .inl rfl, rfl, Iff.rfl⟩
  · exact ⟨[], _, _, rfl, .inl rfl, rfl, Iff.rfl⟩

theorem IsFraction.fraction_append (h : IsFraction s) (hdigit : Stops Char.isDigit t) (hpoint : Stops (· == '.') t) :
    ∃ fs, fraction (s ++ t) = (fs, t) ∧ (fs = [] ↔ s = []) := by
  rcases h with rfl | ⟨ds, hds, rfl⟩
  · refine ⟨[], ?_, Iff.rfl⟩
    rw [List.nil_append, fraction]
    rintro d rest rfl
    exact absurd (hpoint '.' rfl) (by simp)
  · obtain ⟨d, ds, rfl, hd⟩ := hds.exists_cons
    refine ⟨d :: ds, ?_, by simp⟩
    rw [List.cons_append, List.cons_append, fraction, if_pos hd, ← List.cons_append, hdigit.takeWhile_append hds.2,
      hdigit.dropWhile_append hds.2]

theorem exists_takeSign (s : List Char) : ∃ sign ∈ [[], ['+'], ['-']], s = sign ++ (takeSign s).2 := by
  unfold takeSign
  split
  · exact ⟨['-'], by simp, rfl⟩
  · exact ⟨['+'], by simp, rfl⟩
  · exact ⟨[], by simp, rfl⟩

theorem takeSign_append {sign : List Char} (hsign : sign ∈ [[], ['+'], ['-']]) (hc : c.isDigit = true) :
    ∃ negative, takeSign (sign ++ c :: s) = (negative, c :: s) := by
  simp only [List.mem_cons, List.not_mem_nil, or_false] at hsign
  rcases hsign with rfl | rfl | rfl
  · refine ⟨false, ?_⟩
    rw [List.nil_append, takeSign]
    · rintro _ ⟨⟩
      cases hc
    · rintro _ ⟨⟩
      cases hc
  · exact ⟨false, rfl⟩
  · exact ⟨true, rfl⟩

theorem exists_power {m : Int} (h : power s = some (m, rest)) : ∃ x, IsPower x ∧ x ≠ [] ∧ s = x ++ rest := by
  unfold power at h
  split at h
  · next e t =>
    split at h
    · next he =>
      obtain ⟨sign, hsign, ht⟩ := exists_takeSign t
      dsimp only at h
      split at h
      · cases h
      · next hne =>
        cases h
        have hds : IsDigits ((takeSign t).2.takeWhile Char.isDigit) := ⟨hne, fun c hc => List.mem_takeWhile_imp hc⟩
        refine ⟨e :: (sign ++ _), .inr ⟨e, sign, _, by simpa using he, hsign, hds, rfl⟩, by simp, ?_⟩
        rw [List.cons_append, List.append_assoc, List.takeWhile_append_dropWhile, ← ht]
    · cases h
  · cases h

/-- A number may go on with such a character. -/
def isNumeric (c : Char) : Bool := c.isDigit || c == '.' || c == 'e' || c == 'E'

theorem IsPower.power_append (h : IsPower s) (ht : Stops isNumeric t) :
    s = [] ∧ power (s ++ t) = none ∨ s ≠ [] ∧ ∃ m, power (s ++ t) = some (m, t) := by
  rcases h with rfl | ⟨e, sign, ds, he, hsign, hds, rfl⟩
  · refine .inl ⟨rfl, ?_⟩
    cases t with
    | nil => rfl
    | cons c t =>
      have hc := ht c rfl
      simp only [isNumeric, Bool.or_eq_false_iff, beq_eq_false_iff_ne] at hc
      simp [power, hc.1.2, hc.2]
  · have hdigit : Stops Char.isDigit t := ht.mono fun c hc => by simp [isNumeric, hc]
    obtain ⟨d, ds, rfl, hd⟩ := hds.exists_cons
    obtain ⟨negative, hsign⟩ := takeSign_append (s := ds ++ t) hsign hd
    have he' : (e = 'e' || e = 'E') = true := by simpa using he
    refine .inr ⟨by simp, ?_⟩
    rw [List.cons_append, List.append_assoc, List.cons_append, power]
    simp only [he', if_true, hsign]
    rw [← List.cons_append, hdigit.takeWhile_append hds.2, hdigit.dropWhile_append hds.2]
    exact ⟨_, rfl⟩

theorem exists_numeral (h : number? s = some (v, rest)) : ∃ t, IsNumeral digitLimit t ∧ s = t ++ rest := by
  unfold number? at h
  split at h
  next negative body hbody =>
  obtain ⟨sign, hsign, rfl⟩ : ∃ sign ∈ [[], ['-']], s = sign ++ body := by
    split at hbody <;> cases hbody
    · exact ⟨['-'], by simp, rfl⟩
    · exact ⟨[], by simp, rfl⟩
  clear hbody
  dsimp only at h
  generalize hds : (if body.head? = some '0' then ['0'] else List.takeWhile Char.isDigit body) = ds at h
  split at h
  · cases h
  next hne =>
  obtain ⟨hwhole, hbody⟩ := exists_whole hds (by simpa using hne)
  obtain ⟨n, hn, h⟩ := Option.bind_eq_some_iff.1 h
  obtain ⟨f, fs, t, hft, hf, htail, hnil⟩ := exists_fraction (body.drop ds.length)
  rw [hft] at h
  rw [hbody, htail]
  dsimp only at h
  split at h
  · next hp =>
    obtain rfl := hnil.1 rfl
    split at h
    · cases h
    · next hlen =>
      cases h
      exact ⟨_, .intro hsign hwhole hf (.inl rfl) fun _ _ => Nat.le_of_not_lt hlen, by simp⟩
  · next hsome =>
    cases hp : power t with
    | none =>
      rw [hp] at h hsome
      cases h
      exact ⟨_, .intro hsign hwhole hf (.inl rfl) fun hf0 => absurd (hnil.2 hf0) (hsome rfl), by simp⟩
    | some r =>
      obtain ⟨m, t'⟩ := r
      rw [hp] at h
      cases h
      obtain ⟨x, hx, hx0, rfl⟩ := exists_power hp
      exact ⟨_, .intro hsign hwhole hf hx fun _ h => absurd h hx0, by simp⟩

theorem IsNumeral.exists_cons {digits : Nat} (h : IsNumeral digits s) :
    ∃ c t, s = c :: t ∧ (c.isDigit = true ∨ c = '-' ∧ ∃ d u, t = d :: u ∧ d.isDigit = true) := by
  obtain @⟨sign, ds, f, x, hsign, hds, -, -, -⟩ := h
  obtain ⟨d, ds, rfl, hd⟩ := hds.1.exists_cons
  simp only [List.mem_cons, List.not_mem_nil, or_false] at hsign
  rcases hsign with rfl | rfl
  · exact ⟨d, _, rfl, .inl hd⟩
  · exact ⟨'-', _, rfl, .inr ⟨rfl, d, _, rfl, hd⟩⟩

theorem IsNumeral.number?_append (h : IsNumeral digitLimit s) (ht : Stops isNumeric t) :
    ∃ v, number? (s ++ t) = some (v, t) := by
  obtain @⟨sign, ds, f, x, hsign, hds, hf, hx, hfits⟩ := h
  have hdigit : Stops Char.isDigit (x ++ t) :=
    (hx.stops rfl rfl).append (ht.mono fun c hc => by simp [isNumeric, hc])
  have hpoint : Stops (· == '.') (x ++ t) := (hx.stops rfl rfl).append (ht.mono fun c hc => by simp [isNumeric, hc])
  obtain ⟨n, hn⟩ := hds.1.exists_natOfDigits?
  obtain ⟨fs, hfs, hnil⟩ := hf.fraction_append hdigit hpoint
  unfold number?
  split
  next negative body hbody =>
  obtain rfl : body = ds ++ (f ++ (x ++ t)) := by
    obtain ⟨d, ds, rfl, hd⟩ := hds.1.exists_cons
    simp only [List.mem_cons, List.not_mem_nil, or_false] at hsign
    rcases hsign with rfl | rfl
    · split at hbody
      · next heq =>
        cases heq
        cases hd
      · cases hbody
        simp
    · cases hbody
      simp
  clear hbody
  dsimp only
  rw [hds.eq_of_append ((hf.stops rfl).append hdigit), if_neg (by simpa using hds.1.1), hn, List.drop_left, hfs]
  rcases hx.power_append ht with ⟨rfl, hp⟩ | ⟨-, m, hp⟩
  · rw [hp]
    cases fs with
    | nil =>
      dsimp only [Bind.bind, Option.bind]
      rw [if_neg (Nat.not_lt.2 (hfits (hnil.1 rfl) rfl))]
      exact ⟨_, rfl⟩
    | cons d fs => exact ⟨_, rfl⟩
  · rw [hp]
    exact ⟨_, rfl⟩

/-! ## Atoms -/

theorem exists_atom (h : atom? s = some (v, rest)) :
    (∃ w ∈ words, s = w.toList ++ rest) ∨ ∃ t, IsNumeral digitLimit t ∧ s = t ++ rest := by
  simp only [atom?, Option.orElse_eq_orElse, Option.orElse_eq_or, Option.or_eq_some_iff, Option.map_eq_some_iff,
    Prod.mk.injEq] at h
  rcases h with h | ⟨-, h | ⟨-, h | ⟨-, h | ⟨-, h | ⟨-, h | ⟨-, h⟩⟩⟩⟩⟩⟩
  case inr.inr.inr.inr.inr.inr => exact .inr (exists_numeral h)
  all_goals
    obtain ⟨t, ht, -, rfl⟩ := h
    exact .inl ⟨_, by simp [words], after?_eq_some_iff.1 ht⟩

theorem atom?_word {w : String} (hw : w ∈ words) (rest : List Char) :
    ∃ v, atom? (w.toList ++ rest) = some (v, rest) := by
  simp only [words, List.mem_cons, List.not_mem_nil, or_false] at hw
  rcases hw with rfl | rfl | rfl | rfl | rfl | rfl
  all_goals simp [atom?, after?]

/-- A word or a number may start with such a character. -/
def startsAtom (c : Char) : Bool := c.isDigit || ['n', 't', 'f', 'N', 'I', '-'].contains c

theorem start_of_mem_words {w : String} (hw : w ∈ words) :
    ∃ c u, w.toList = c :: u ∧ startsAtom c = true ∧ c.isDigit = false ∧ (c = '-' → u.head? = some 'I') := by
  simp only [words, List.mem_cons, List.not_mem_nil, or_false] at hw
  rcases hw with rfl | rfl | rfl | rfl | rfl | rfl
  all_goals simp [startsAtom, Char.isDigit]

/-- No word starts like a number, not even the one with a sign. -/
theorem IsNumeral.not_word {digits : Nat} (h : IsNumeral digits s) {w : String} (hw : w ∈ words) :
    ¬w.toList <+: s ++ t := by
  obtain ⟨c, u, hstart, -, hdigit, hsign⟩ := start_of_mem_words hw
  obtain ⟨c', s, rfl, hc'⟩ := h.exists_cons
  rw [hstart, List.cons_append, List.cons_prefix_cons]
  rintro ⟨rfl, hu⟩
  rcases hc' with hc' | ⟨rfl, d, s, rfl, hd⟩
  · exact Bool.eq_false_iff.1 hdigit hc'
  · obtain ⟨u, rfl⟩ := List.head?_eq_some_iff.1 (hsign rfl)
    rw [List.cons_append, List.cons_prefix_cons] at hu
    obtain ⟨rfl, -⟩ := hu
    cases hd

theorem IsNumeral.start {digits : Nat} (h : IsNumeral digits s) : ∃ c u, s = c :: u ∧ startsAtom c = true := by
  obtain ⟨c, u, rfl, hc | ⟨rfl, -⟩⟩ := h.exists_cons
  · exact ⟨c, u, rfl, by simp [startsAtom, hc]⟩
  · exact ⟨_, u, rfl, rfl⟩

theorem IsNumeral.atom?_append (h : IsNumeral digitLimit s) (ht : Stops isNumeric t) :
    ∃ v, atom? (s ++ t) = some (v, t) := by
  obtain ⟨v, hv⟩ := h.number?_append ht
  have hword : ∀ w ∈ words, after? w.toList (s ++ t) = none := fun w hw => after?_eq_none (h.not_word hw)
  simp only [words, List.forall_mem_cons] at hword
  obtain ⟨h1, h2, h3, h4, h5, h6, -⟩ := hword
  exact ⟨v, by simp only [atom?, h1, h2, h3, h4, h5, h6, hv]; rfl⟩

/-! ## Strings -/

theorem exists_unit (h : hexUnit? s = some (n, rest)) : ∃ ds, IsUnit ds ∧ s = ds ++ rest := by
  unfold hexUnit? at h
  dsimp only at h
  split at h
  · next hlen =>
    obtain ⟨m, hm, h⟩ := Option.bind_eq_some_iff.1 h
    cases h
    exact ⟨s.take 4, ⟨hlen, (exists_natOfDigits?_iff.1 ⟨_, hm⟩).2⟩, (List.take_append_drop 4 s).symm⟩
  · cases h

theorem IsUnit.hexUnit?_append (h : IsUnit ds) (s : List Char) : ∃ n, hexUnit? (ds ++ s) = some (n, s) := by
  obtain ⟨n, hn⟩ := exists_natOfDigits?_iff.2 ⟨List.ne_nil_of_length_pos (h.1 ▸ Nat.succ_pos 3), h.2⟩
  exact ⟨n, by simp [hexUnit?, ← h.1, hn]⟩

/-- Two units may make up one character. -/
theorem exists_units (h : unicodeEscape? s = some (n, rest)) : ∃ ds, IsUnit ds ∧
    (s = ds ++ rest ∨ ∃ ds', IsUnit ds' ∧ s = ds ++ '\\' :: 'u' :: (ds' ++ rest)) := by
  obtain ⟨⟨high, t⟩, hhigh, hnext⟩ := Option.bind_eq_some_iff.1 h
  obtain ⟨ds, hds, rfl⟩ := exists_unit hhigh
  refine ⟨ds, hds, ?_⟩
  dsimp only at hnext
  split at hnext
  · split at hnext
    · next hlow =>
      split at hnext
      · obtain ⟨-, rfl⟩ := Prod.mk.inj (Option.some.inj hnext)
        obtain ⟨ds', hds', rfl⟩ := exists_unit hlow
        exact .inr ⟨ds', hds', rfl⟩
      · cases hnext
        exact .inl rfl
    · cases hnext
      exact .inl rfl
  · cases hnext
    exact .inl rfl

theorem IsUnit.unicodeEscape?_append (h : IsUnit ds) (s : List Char) :
    ∃ n, unicodeEscape? (ds ++ s) = some (n, s) ∨
      ∃ ds' rest, IsUnit ds' ∧ s = '\\' :: 'u' :: (ds' ++ rest) ∧ unicodeEscape? (ds ++ s) = some (n, rest) := by
  obtain ⟨high, hhigh⟩ := h.hexUnit?_append s
  unfold unicodeEscape?
  rw [hhigh]
  dsimp only [Bind.bind, Option.bind]
  split
  · split
    · next hlow =>
      split
      · obtain ⟨ds', hds', rfl⟩ := exists_unit hlow
        exact ⟨_, .inr ⟨ds', _, hds', rfl, rfl⟩⟩
      · exact ⟨_, .inl rfl⟩
    · exact ⟨_, .inl rfl⟩
  · exact ⟨_, .inl rfl⟩

theorem exists_simpleEscape?_iff : (∃ d, simpleEscape? c = some d) ↔ c ∈ escapes := by
  unfold simpleEscape? escapes
  split <;> simp_all

theorem content_of_characters {fuel : Nat} {cs : List Nat} (h : characters fuel s = some (cs, rest)) :
    Content s rest := by
  induction fuel generalizing s cs with
  | zero => cases h
  | succ fuel ih =>
    unfold characters at h
    split at h
    · cases h
    · cases h
    · cases h
      exact .close
    · next heq =>
      cases heq
      obtain ⟨⟨n, t⟩, hunits, h⟩ := Option.bind_eq_some_iff.1 h
      obtain ⟨⟨cs, t'⟩, hcs, h⟩ := Option.bind_eq_some_iff.1 h
      cases h
      obtain ⟨ds, hds, rfl | ⟨ds', hds', rfl⟩⟩ := exists_units hunits
      · exact .unit hds (ih hcs)
      · exact .unit hds (.unit hds' (ih hcs))
    · next heq =>
      cases heq
      obtain ⟨d, hd, h⟩ := Option.bind_eq_some_iff.1 h
      obtain ⟨⟨cs, t'⟩, hcs, h⟩ := Option.bind_eq_some_iff.1 h
      cases h
      exact .escape (exists_simpleEscape?_iff.1 ⟨d, hd⟩) (ih hcs)
    · next hquote _ _ heq =>
      cases heq
      split at h
      · cases h
      · next hc =>
        obtain ⟨⟨cs, t'⟩, hcs, h⟩ := Option.bind_eq_some_iff.1 h
        cases h
        simp only [Bool.or_eq_true, decide_eq_true_eq, not_or, Nat.not_lt] at hc
        exact .plain hc.1 hquote hc.2 (ih hcs)

theorem Content.of_unit (h : Content ('\\' :: 'u' :: (ds ++ s)) rest) (hds : IsUnit ds) : Content s rest := by
  generalize ht : '\\' :: 'u' :: (ds ++ s) = t at h
  cases h with
  | close => cases ht
  | plain _ _ hslash _ => exact absurd (List.cons.inj ht).1.symm hslash
  | escape he _ =>
    obtain ⟨rfl, -⟩ := List.cons.inj (List.cons.inj ht).2
    exact absurd he (by simp [escapes])
  | unit hds' h =>
    obtain ⟨-, rfl⟩ := List.append_inj (List.cons.inj (List.cons.inj ht).2).2 (hds.1.trans hds'.1.symm)
    exact h

theorem Content.length_lt (h : Content s rest) : rest.length < s.length := by
  induction h with
  | close => simp
  | plain _ _ _ _ ih => exact ih.trans (by simp)
  | escape _ _ ih => exact ih.trans (by simp)
  | unit _ _ ih => exact ih.trans (by simp only [List.length_cons, List.length_append]; omega)

theorem Content.exists_characters {fuel : Nat} (h : Content s rest) (hs : s.length < fuel) :
    ∃ cs, characters fuel s = some (cs, rest) := by
  -- On the fuel and not on the content, as two units may be read at once.
  induction fuel generalizing s with
  | zero => cases hs
  | succ fuel ih =>
    cases h with
    | close => exact ⟨[], by simp [characters]⟩
    | @plain c s _ hc hquote hslash h =>
      obtain ⟨cs, hcs⟩ := ih h (Nat.lt_of_succ_lt_succ hs)
      refine ⟨c.toNat :: cs, ?_⟩
      rw [characters]
      · simp [Nat.not_lt.2 hc, hslash, hcs]
      all_goals simp [hquote, hslash]
    | @escape e s _ he h =>
      obtain ⟨d, hd⟩ := exists_simpleEscape?_iff.2 he
      obtain ⟨cs, hcs⟩ := ih h (by simp only [List.length_cons] at hs; omega)
      refine ⟨d.toNat :: cs, ?_⟩
      rw [characters]
      · simp [hd, hcs]
      · rintro rfl
        exact absurd he (by simp [escapes])
    | @unit ds s _ hds h =>
      simp only [List.length_cons, List.length_append] at hs
      obtain ⟨n, hn | ⟨ds', t, hds', rfl, hn⟩⟩ := hds.unicodeEscape?_append s
      · obtain ⟨cs, hcs⟩ := ih h (by omega)
        exact ⟨n :: cs, by simp [characters, hn, hcs]⟩
      · obtain ⟨cs, hcs⟩ := ih (h.of_unit hds') (by simp only [List.length_cons, List.length_append] at hs; omega)
        exact ⟨n :: cs, by simp [characters, hn, hcs]⟩

end EntityGen.Json
