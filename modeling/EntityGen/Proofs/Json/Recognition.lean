import EntityGen.Proofs.Json
import EntityGen.Proofs.Json.Leaves

/-! What is read from a text is there exactly if the text is one of JSON, within the limits. -/

namespace EntityGen.Json

open Number

variable {α β : Type} {digits n fuel depth : Nat} {part : Part} {s t u x y rest : List Char} {c : Char} {v : Value}
  {done : List (Value × Value)}

/-! ## What is read is spelled -/

theorem spells_of_atom? (h : atom? s = some (v, rest)) : Spells digitLimit .value depth s rest := by
  obtain ⟨w, hw, rfl⟩ | ⟨t, ht, rfl⟩ := exists_atom h
  · exact .word hw
  · exact .numeral ht

theorem spaced_of_skipSpace (h : skipSpace s = t) : Spaced s t := h ▸ spaced_skipSpace s

def Yield.kind : Yield → Part
  | .value _ => .value
  | .items _ => .items
  | .members _ _ => .members

theorem Reads.spells {y : Yield} (h : Reads depth y s rest) : Spells digitLimit y.kind depth s rest := by
  induction h with
  | atom h => exact spells_of_atom? h
  | string h => exact .string (content_of_characters h)
  | emptyList hs => exact .emptyList (spaced_of_skipSpace hs)
  | list _ ih => exact .list (spaced_skipSpace _) ih
  | emptyMap hs => exact .emptyMap (spaced_of_skipSpace hs)
  | map _ ih => exact .map (spaced_skipSpace _) ih
  | lastItem _ ht ih => exact .lastItem ih (spaced_of_skipSpace ht)
  | item _ ht _ ih ihs => exact .item ih (spaced_of_skipSpace ht) (spaced_skipSpace _) ihs
  | lastMember hs ht _ hx ih =>
    exact .lastMember (content_of_characters hs) (spaced_of_skipSpace ht) (spaced_skipSpace _) ih
      (spaced_of_skipSpace hx)
  | member hs ht _ hx _ ih ihs =>
    exact .member (content_of_characters hs) (spaced_of_skipSpace ht) (spaced_skipSpace _) ih
      (spaced_of_skipSpace hx) (spaced_skipSpace _) ihs

/-! ## What is spelled is read -/

/-- Space, or a bracket that closes something. -/
def isGap (c : Char) : Bool := isSpace c || c == ']' || c == '\x7d'

theorem ne_of_startsAtom {d : Char} (h : startsAtom c = true) (hd : startsAtom d = false) : c ≠ d := by
  rintro rfl
  cases h.symm.trans hd

theorem isGap_of_startsAtom (h : startsAtom c = true) : isGap c = false := by
  simp only [isGap, isSpace, Bool.or_eq_false_iff, decide_eq_false_iff_not, beq_eq_false_iff_ne]
  refine ⟨⟨⟨⟨⟨?_, ?_⟩, ?_⟩, ?_⟩, ?_⟩, ?_⟩
  all_goals exact ne_of_startsAtom h rfl

theorem Spells.start (h : Spells digits part n s rest) : ∃ c t, s = c :: t ∧ isGap c = false := by
  induction h with
  | word hw =>
    obtain ⟨c, u, hw, hc, -⟩ := start_of_mem_words hw
    exact ⟨c, _, by rw [hw]; rfl, isGap_of_startsAtom hc⟩
  | numeral ht =>
    obtain ⟨c, u, rfl, hc⟩ := ht.start
    exact ⟨c, _, rfl, isGap_of_startsAtom hc⟩
  | lastItem _ _ ih => exact ih
  | item _ _ _ _ ih _ => exact ih
  | string | emptyList | list | emptyMap | map | lastMember | member => exact ⟨_, _, rfl, rfl⟩

theorem Spells.length_lt (h : Spells digits part n s rest) : rest.length < s.length := by
  induction h with
  | word hw =>
    obtain ⟨c, u, hw, -⟩ := start_of_mem_words hw
    simp [hw]
  | numeral ht =>
    obtain ⟨c, u, rfl, -⟩ := ht.start
    simp
  | string h => exact h.length_lt.trans (Nat.lt_succ_self _)
  | emptyList hs | emptyMap hs =>
    have := hs.length_le
    simp only [List.length_cons] at *
    omega
  | list hs _ ih | map hs _ ih =>
    have := hs.length_le
    simp only [List.length_cons]
    omega
  | lastItem _ ht ih =>
    have := ht.length_le
    simp only [List.length_cons] at this
    omega
  | item _ ht hu _ ih ih' =>
    have := ht.length_le
    have := hu.length_le
    simp only [List.length_cons] at *
    omega
  | lastMember hs ht hu _ hx ih =>
    have := hs.length_lt
    have := ht.length_le
    have := hu.length_le
    have := hx.length_le
    simp only [List.length_cons] at *
    omega
  | member hs ht hu _ hx hy _ ih ih' =>
    have := hs.length_lt
    have := ht.length_le
    have := hu.length_le
    have := hx.length_le
    have := hy.length_le
    simp only [List.length_cons] at *
    omega

/-- Behind a number there is space or a mark, so it does not go on. -/
theorem Spaced.stops (h : Spaced s rest) (hr : Stops isNumeric rest) : Stops isNumeric s := by
  obtain ⟨sp, hsp, rfl⟩ := h
  cases sp with
  | nil => exact hr
  | cons c sp =>
    refine .cons ?_
    have hc := hsp c List.mem_cons_self
    simp only [isSpace, Bool.or_eq_true, decide_eq_true_eq] at hc
    rcases hc with ((rfl | rfl) | rfl) | rfl
    all_goals rfl

theorem Spells.skipSpace_eq (h : Spells digits part n t rest) (hs : Spaced s t) : skipSpace s = t := by
  obtain ⟨c, t, rfl, hc⟩ := h.start
  rw [isGap, Bool.or_assoc, Bool.or_eq_false_iff] at hc
  exact hs.skipSpace_eq (.cons hc.1)

/-- Something is read up to a place, unless containers are too deep in each other. -/
def Reaches (n depth : Nat) (x : Except Fault (α × List Char)) (rest : List Char) : Prop :=
  (∃ a, x = .ok (a, rest)) ∨ depth < n ∧ x = .error .tooDeep

namespace Reaches

theorem bind {x : Except Fault (α × List Char)} {f : α × List Char → Except Fault (β × List Char)}
    (hx : Reaches n depth x t) (hf : ∀ a, Reaches n depth (f (a, t)) rest) : Reaches n depth (x >>= f) rest := by
  rcases hx with ⟨a, rfl⟩ | ⟨hdepth, rfl⟩
  · exact hf a
  · exact .inr ⟨hdepth, rfl⟩

theorem deepen {x : Except Fault (α × List Char)} (hx : Reaches n depth x rest) (f : α → β) :
    Reaches (n + 1) (depth + 1) (do let (a, rest) ← x; return (f a, rest)) rest := by
  rcases hx with ⟨a, rfl⟩ | ⟨hdepth, rfl⟩
  · exact .inl ⟨f a, rfl⟩
  · exact .inr ⟨Nat.succ_lt_succ hdepth, rfl⟩

theorem atom (h : atom? s = some (v, rest)) (hstart : ∃ c u, s = c :: u ∧ startsAtom c = true) :
    Reaches n depth (value (fuel + 1) depth s) rest := by
  obtain ⟨c, u, rfl, hc⟩ := hstart
  refine .inl ⟨v, ?_⟩
  rw [value, h]
  · rfl
  · exact Nat.succ_ne_zero fuel
  all_goals
    intros
    rename_i heq
    exact ne_of_startsAtom hc rfl (List.cons.inj heq).1

theorem string (h : Content s rest) : Reaches n depth (value (fuel + 1) depth ('"' :: s)) rest := by
  obtain ⟨cs, hcs⟩ := h.exists_characters (Nat.lt_succ_self _)
  exact .inl ⟨.ofCodes cs, by rw [value, hcs]; rfl⟩

theorem emptyList (h : skipSpace s = ']' :: rest) : Reaches (n + 1) depth (value (fuel + 1) depth ('[' :: s)) rest := by
  cases depth with
  | zero => exact .inr ⟨Nat.succ_pos n, by rw [value]; rfl⟩
  | succ depth => exact .inl ⟨.list [], by rw [value, h]; rfl⟩

theorem list (h : ∀ depth, Reaches n depth (items fuel depth (skipSpace s)) rest)
    (hstart : ∃ c t, skipSpace s = c :: t ∧ isGap c = false) :
    Reaches (n + 1) depth (value (fuel + 1) depth ('[' :: s)) rest := by
  cases depth with
  | zero => exact .inr ⟨Nat.succ_pos n, by rw [value]; rfl⟩
  | succ depth =>
    obtain ⟨c, t, hs, hc⟩ := hstart
    rw [value]
    split
    · next heq =>
      cases hs.symm.trans heq
      cases hc
    · exact (h depth).deepen Value.list

theorem emptyMap (h : skipSpace s = '\x7d' :: rest) :
    Reaches (n + 1) depth (value (fuel + 1) depth ('\x7b' :: s)) rest := by
  cases depth with
  | zero => exact .inr ⟨Nat.succ_pos n, by rw [value]; rfl⟩
  | succ depth => exact .inl ⟨.map [], by rw [value, h]; rfl⟩

theorem map (h : ∀ depth, Reaches n depth (members fuel depth [] (skipSpace s)) rest)
    (hstart : ∃ c t, skipSpace s = c :: t ∧ isGap c = false) :
    Reaches (n + 1) depth (value (fuel + 1) depth ('\x7b' :: s)) rest := by
  cases depth with
  | zero => exact .inr ⟨Nat.succ_pos n, by rw [value]; rfl⟩
  | succ depth =>
    obtain ⟨c, t, hs, hc⟩ := hstart
    rw [value]
    split
    · next heq =>
      cases hs.symm.trans heq
      cases hc
    · exact (h depth).deepen Value.map

theorem lastItem (h : Reaches n depth (value fuel depth s) t) (ht : skipSpace t = ']' :: rest) :
    Reaches n depth (items (fuel + 1) depth s) rest := by
  rw [items]
  refine h.bind fun v => ?_
  dsimp only
  rw [ht]
  exact .inl ⟨[v], rfl⟩

theorem item (h : Reaches n depth (value fuel depth s) t) (ht : skipSpace t = ',' :: u)
    (hnext : Reaches n depth (items fuel depth (skipSpace u)) rest) :
    Reaches n depth (items (fuel + 1) depth s) rest := by
  rw [items]
  refine h.bind fun v => ?_
  dsimp only
  rw [ht]
  exact hnext.bind fun vs => .inl ⟨v :: vs, rfl⟩

theorem lastMember (hs : Content s t) (ht : skipSpace t = ':' :: u)
    (h : Reaches n depth (value fuel depth (skipSpace u)) x) (hx : skipSpace x = '\x7d' :: rest) :
    Reaches n depth (members (fuel + 1) depth done ('"' :: s)) rest := by
  obtain ⟨name, hname⟩ := hs.exists_characters (Nat.lt_succ_self _)
  rw [members, hname]
  dsimp only [ofOption, Bind.bind, Except.bind]
  rw [ht]
  refine h.bind fun v => ?_
  dsimp only
  rw [hx]
  exact .inl ⟨_, rfl⟩

theorem member (hs : Content s t) (ht : skipSpace t = ':' :: u)
    (h : Reaches n depth (value fuel depth (skipSpace u)) x) (hx : skipSpace x = ',' :: y)
    (hnext : ∀ done, Reaches n depth (members fuel depth done (skipSpace y)) rest) :
    Reaches n depth (members (fuel + 1) depth done ('"' :: s)) rest := by
  obtain ⟨name, hname⟩ := hs.exists_characters (Nat.lt_succ_self _)
  rw [members, hname]
  dsimp only [ofOption, Bind.bind, Except.bind]
  rw [ht]
  refine h.bind fun v => ?_
  dsimp only
  rw [hx]
  exact hnext _

end Reaches

/-- How a part is read with enough fuel. -/
def IsRead (n : Nat) (part : Part) (s rest : List Char) : Prop :=
  match part with
  | .value => Stops isNumeric rest → ∀ fuel depth, 2 * s.length ≤ fuel + 2 →
    Reaches n depth (value (fuel + 1) depth s) rest
  | .items => ∀ fuel depth, 2 * s.length ≤ fuel + 1 → Reaches n depth (items (fuel + 1) depth s) rest
  | .members => ∀ fuel depth done, 2 * s.length ≤ fuel + 1 →
    Reaches n depth (members (fuel + 1) depth done s) rest

theorem Spells.isRead (h : Spells digitLimit part n s rest) : IsRead n part s rest := by
  induction h with
  | word hw =>
    intro _ fuel depth _
    obtain ⟨v, hv⟩ := atom?_word hw _
    obtain ⟨c, u, hstart, hc, -⟩ := start_of_mem_words hw
    exact .atom hv ⟨c, _, by rw [hstart]; rfl, hc⟩
  | numeral ht =>
    intro hr fuel depth _
    obtain ⟨v, hv⟩ := ht.atom?_append hr
    obtain ⟨c, u, rfl, hc⟩ := ht.start
    exact .atom hv ⟨c, _, rfl, hc⟩
  | string h => exact fun _ fuel depth _ => .string h
  | emptyList hs => exact fun _ fuel depth _ => .emptyList (hs.skipSpace_eq (.cons rfl))
  | list hs h ih =>
    intro _ fuel depth hfuel
    have hpos := h.length_lt
    have hle := hs.length_le
    rw [List.length_cons] at hfuel
    obtain ⟨fuel, rfl⟩ : ∃ k, fuel = k + 1 := ⟨fuel - 1, by omega⟩
    refine .list (fun depth => ?_) ?_
    all_goals rw [h.skipSpace_eq hs]
    · exact ih fuel depth (by omega)
    · exact h.start
  | emptyMap hs => exact fun _ fuel depth _ => .emptyMap (hs.skipSpace_eq (.cons rfl))
  | map hs h ih =>
    intro _ fuel depth hfuel
    have hpos := h.length_lt
    have hle := hs.length_le
    rw [List.length_cons] at hfuel
    obtain ⟨fuel, rfl⟩ : ∃ k, fuel = k + 1 := ⟨fuel - 1, by omega⟩
    refine .map (fun depth => ?_) ?_
    all_goals rw [h.skipSpace_eq hs]
    · exact ih fuel depth [] (by omega)
    · exact h.start
  | lastItem h ht ih =>
    intro fuel depth hfuel
    have hpos := h.length_lt
    obtain ⟨fuel, rfl⟩ : ∃ k, fuel = k + 1 := ⟨fuel - 1, by omega⟩
    exact .lastItem (ih (ht.stops (.cons rfl)) fuel depth hfuel) (ht.skipSpace_eq (.cons rfl))
  | item h ht hu hnext ih ihnext =>
    intro fuel depth hfuel
    have hpos := h.length_lt
    have htle := ht.length_le
    have hule := hu.length_le
    rw [List.length_cons] at htle
    obtain ⟨fuel, rfl⟩ : ∃ k, fuel = k + 1 := ⟨fuel - 1, by omega⟩
    refine .item (ih (ht.stops (.cons rfl)) fuel depth hfuel) (ht.skipSpace_eq (.cons rfl)) ?_
    rw [hnext.skipSpace_eq hu]
    exact ihnext fuel depth (by omega)
  | lastMember hs ht hu h hx ih =>
    intro fuel depth done hfuel
    have hsle := hs.length_lt
    have htle := ht.length_le
    have hule := hu.length_le
    have hpos := h.length_lt
    rw [List.length_cons] at hfuel htle
    obtain ⟨fuel, rfl⟩ : ∃ k, fuel = k + 1 := ⟨fuel - 1, by omega⟩
    refine .lastMember hs (ht.skipSpace_eq (.cons rfl)) ?_ (hx.skipSpace_eq (.cons rfl))
    rw [h.skipSpace_eq hu]
    exact ih (hx.stops (.cons rfl)) fuel depth (by omega)
  | member hs ht hu h hx hy hnext ih ihnext =>
    intro fuel depth done hfuel
    have hsle := hs.length_lt
    have htle := ht.length_le
    have hule := hu.length_le
    have hpos := h.length_lt
    have hxle := hx.length_le
    have hyle := hy.length_le
    rw [List.length_cons] at hfuel htle hxle
    obtain ⟨fuel, rfl⟩ : ∃ k, fuel = k + 1 := ⟨fuel - 1, by omega⟩
    refine .member hs (ht.skipSpace_eq (.cons rfl)) ?_ (hx.skipSpace_eq (.cons rfl)) fun done => ?_
    · rw [h.skipSpace_eq hu]
      exact ih (hx.stops (.cons rfl)) fuel depth (by omega)
    · rw [hnext.skipSpace_eq hy]
      exact ihnext fuel depth done (by omega)

/-! ## Whole texts -/

variable {text : String}

theorem isText_of_parse (h : parse text = .ok v) : IsText digitLimit depthLimit text.toList := by
  obtain ⟨⟨v, rest⟩, hv, h⟩ := bind_eq_ok_iff.1 h
  dsimp only at h
  split at h
  · next hrest =>
    exact ⟨_, rest, spaced_skipSpace _, (reads_of_value hv).spells,
      spaced_of_skipSpace (List.isEmpty_iff.1 hrest)⟩
  · cases h

/-- A text of JSON is read, unless more containers are in each other than can be open at once. -/
theorem parse_of_isText (h : IsText digitLimit n text.toList) :
    (∃ v, parse text = .ok v) ∨ depthLimit < n ∧ parse text = .error .tooDeep := by
  obtain ⟨t, rest, ht, hvalue, hrest⟩ := h
  have hlen := ht.length_le
  have hread : Reaches n depthLimit (value (2 * text.toList.length + 2) depthLimit t) rest :=
    hvalue.isRead (hrest.stops .nil) _ depthLimit (by omega)
  rw [← hvalue.skipSpace_eq ht] at hread
  unfold parse
  dsimp only
  rcases hread with ⟨v, hv⟩ | ⟨hdeep, hv⟩
  · refine .inl ⟨v, ?_⟩
    rw [hv]
    dsimp only [Bind.bind, Except.bind]
    rw [hrest.skipSpace_eq .nil]
    rfl
  · exact .inr ⟨hdeep, by rw [hv]; rfl⟩

/-- The texts that are read are those of JSON within the limits. -/
theorem exists_parse_iff : (∃ v, parse text = .ok v) ↔ IsText digitLimit depthLimit text.toList := by
  constructor
  · rintro ⟨v, hv⟩
    exact isText_of_parse hv
  · intro h
    exact (parse_of_isText h).resolve_right fun hdeep => Nat.lt_irrefl _ hdeep.1

/-- What is refused as it stands is no JSON with numbers of that length, however deep. -/
theorem parse_eq_malformed_iff : parse text = .error .malformed ↔
    parse text ≠ .error .tooDeep ∧ ∀ n, ¬IsText digitLimit n text.toList := by
  constructor
  · intro h
    refine ⟨by simp [h], fun n hn => ?_⟩
    rcases parse_of_isText hn with ⟨v, hv⟩ | ⟨-, hdeep⟩
    · cases h.symm.trans hv
    · cases h.symm.trans hdeep
  · rintro ⟨hdeep, hno⟩
    cases h : parse text with
    | ok v => exact absurd (isText_of_parse h) (hno _)
    | error fault =>
      cases fault with
      | malformed => rfl
      | tooDeep => exact absurd h hdeep

end EntityGen.Json
