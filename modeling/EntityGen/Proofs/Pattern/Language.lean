import Mathlib.Computability.Language
import EntityGen.Pattern.Run

/-! The texts that steps match, as a language. What the steps note on their way does not count here: none of
those below asks for it. -/

namespace EntityGen.Pattern

variable {s : Subject} {rest : Rest} {K L M : Language Char} {p : Nat} {u : List Char} {t : CharTest}
  {e next : Program}

/-- The rest succeeds, whatever has been noted, just where a text of the language is left. -/
def Accepts (s : Subject) (rest : Rest) (K : Language Char) : Prop :=
  ∀ p m, p ≤ s.size → ((rest p m).1 = true ↔ s.toList.drop p ∈ K)

/-- Steps that match the texts of a language, wherever they start and whatever follows. -/
def Program.Means (e : Program) (L : Language Char) : Prop :=
  ∀ s r a rest K, Accepts s rest K → Accepts s (fun p m => e.run s r a p m rest) (L * K)

/-- The texts of one character that pass a test. -/
def CharTest.language (t : CharTest) : Language Char := {u | ∃ c, t.holds c = true ∧ u = [c]}

@[simp] theorem CharTest.nil_notMem_language_mul : [] ∉ t.language * L := by
  rw [Language.mem_mul]
  rintro ⟨_, ⟨c, -, rfl⟩, v, -, h⟩
  cases h

@[simp] theorem CharTest.cons_mem_language_mul {c : Char} :
    c :: u ∈ t.language * L ↔ t.holds c = true ∧ u ∈ L := by
  rw [Language.mem_mul]
  constructor
  · rintro ⟨_, ⟨d, hd, rfl⟩, v, hv, h⟩
    obtain ⟨rfl, rfl⟩ := List.cons.inj h
    exact ⟨hd, hv⟩
  · rintro ⟨hc, hu⟩
    exact ⟨[c], ⟨c, hc, rfl⟩, u, hu, rfl⟩

/-- Whether the next character passes a test, in terms of what is left. -/
theorem drop_mem_language_mul :
    s.toList.drop p ∈ t.language * L ↔ s[p]?.any t.holds = true ∧ s.toList.drop (p + 1) ∈ L := by
  rcases Nat.lt_or_ge p s.size with hp | hp
  · rw [← Array.getElem?_toList, List.getElem?_eq_getElem (by simpa using hp),
      List.drop_eq_getElem_cons (by simpa using hp)]
    simp
  · have hdrop : s.toList.drop p = [] := List.drop_eq_nil_of_le (by simpa using hp)
    simp [hdrop, hp]

namespace Program

theorem means_finish : Means .finish 1 := fun s r a rest K hrest => by
  rw [one_mul]
  exact hrest

theorem Means.never : Means .never 0 := fun s r a rest K _ p m _ => by
  rw [zero_mul]
  exact iff_of_false Bool.false_ne_true (Language.notMem_zero _)

theorem Means.one (hnext : next.Means L) : Means (.one t next) (t.language * L) := fun s r a rest K hrest p m _ => by
  change (run s (.one t next) r a p m rest).1 = true ↔ _
  rw [mul_assoc, drop_mem_language_mul, run]
  by_cases hc : s[p]?.any t.holds = true
  · have hp : p + 1 ≤ s.size := by
      by_contra hp
      rw [Array.getElem?_eq_none (by omega)] at hc
      cases hc
    rw [if_pos hc, hnext s r a rest K hrest (p + 1) m hp]
    exact (and_iff_right hc).symm
  · rw [if_neg hc]
    exact iff_of_false Bool.false_ne_true fun h => hc h.1

theorem Means.choose (he : e.Means L) (hnext : next.Means M) : Means (.choose e next) (L * M) :=
  fun s r a rest K hrest => by
    rw [mul_assoc]
    exact he s r none _ _ (hnext s r a rest K hrest)

/-- What is passed over without being run would have failed. -/
theorem run_of_isHopeless {r : Bool} {a : Option Nat} {m : Memory} (h : e.isHopeless s p = true) :
    (e.run s r a p m rest).1 = false := by
  cases e with
  | one t next =>
    rw [isHopeless, Bool.and_eq_true, Bool.not_eq_true'] at h
    rw [run, if_neg (by simp [h.2])]
    rfl
  | _ => cases h

theorem Means.either (he : e.Means L) (hnext : next.Means M) : Means (.either e next) (L + M) :=
  fun s r a rest K hrest p m hp => by
    have hfirst := he s r none rest K hrest p
    have hothers := hnext s r a rest K hrest p
    change (run s (.either e next) r a p m rest).1 = true ↔ _
    rw [add_mul, Language.mem_add, run]
    split
    -- an alternative that is passed over would have failed
    · next h =>
      rw [hothers m hp, ← hfirst m hp, run_of_isHopeless h]
      simp
    · rw [← hfirst (m.moved p) hp]
      by_cases ho : (e.run s r none p (m.moved p) rest).1 = true
      · simp [Outcome.orElse, ho]
      · simp [Outcome.orElse, ho, hothers _ hp]

end Program

/-! ## Sequences -/

/-- A sequence that is compiled to steps for a language. No text of it is shorter than the sequence tells. -/
structure Denotes (is : Sequence) (L : Language Char) : Prop where
  compiles : ∀ {next M}, Program.Means next M → ∃ e, Program.ofSequence {} next is = .ok e ∧ e.Means (L * M)
  least_le : ∀ u ∈ L, (Width.total is).least ≤ u.length

variable {is js : Sequence} {c d : Char}

@[simp] theorem Width.least_total_nil : (total []).least = 0 := by rw [total]

@[simp] theorem Width.least_total_cons {i : Item} :
    (total (i :: is)).least = (ofItem i).least + (total is).least := by
  rw [total, add]

theorem denotes_nil : Denotes [] 1 where
  compiles hnext := ⟨_, rfl, by rwa [one_mul]⟩
  least_le _ _ := by simp

theorem Denotes.cons {i : Item} (hi : Denotes [i] L) (his : Denotes is M) : Denotes (i :: is) (L * M) where
  compiles {next N} hnext := by
    obtain ⟨e, he, hmeans⟩ := his.compiles hnext
    obtain ⟨f, hf, hfmeans⟩ := hi.compiles hmeans
    refine ⟨f, ?_, by rwa [mul_assoc]⟩
    rw [Program.ofSequence, he]
    exact hf
  least_le u hu := by
    obtain ⟨v, hv, w, hw, rfl⟩ := Language.mem_mul.1 hu
    have hfirst := hi.least_le v hv
    have hothers := his.least_le w hw
    rw [Width.least_total_cons, Width.least_total_nil, Nat.add_zero] at hfirst
    rw [Width.least_total_cons, List.length_append]
    exact Nat.add_le_add hfirst hothers

/-- An item that tests one character. -/
theorem denotes_one {i : Item} {t : CharTest} (hi : ∀ next, Program.ofItem {} next i = .ok (.one t next))
    (hw : Width.ofItem i = ⟨1, 1⟩) : Denotes [i] t.language where
  compiles {next M} hnext := ⟨.one t next, hi next, hnext.one⟩
  least_le u hu := by
    obtain ⟨c, -, rfl⟩ := hu
    simp [hw]

theorem denotes_code : Denotes [.code false c.toNat] {[c]} := by
  have hlanguage : (CharTest.code false c.toNat).language = {[c]} := by
    ext u
    simp only [CharTest.language, CharTest.holds_code, Char.toNat_inj]
    exact exists_eq_left
  rw [← hlanguage]
  exact denotes_one (fun _ => by rw [Program.ofItem]; rfl) (by rw [Width.ofItem])

/-- A set of two characters, which may be the same. -/
theorem denotes_set : Denotes [.set false [.code c.toNat, .code d.toNat].eraseDups] ({[c]} + {[d]}) := by
  have hlanguage : (CharTest.set false false [.code c.toNat, .code d.toNat].eraseDups).language = {[c]} + {[d]} := by
    ext u
    have hholds (x : Char) :
        (CharTest.set false false [.code c.toNat, .code d.toNat].eraseDups).holds x = true ↔ x = c ∨ x = d := by
      simp [CharTest.holds, Member.holdsExactly, Char.toNat_inj]
    simp only [CharTest.language, hholds, or_and_right, exists_or]
    exact or_congr exists_eq_left exists_eq_left
  rw [← hlanguage]
  exact denotes_one (fun _ => by rw [Program.ofItem]; rfl) (by rw [Width.ofItem])

theorem Denotes.branch (his : Denotes is L) (hjs : Denotes js M) : Denotes [.branch [is, js]] (L + M) where
  compiles {next N} hnext := by
    obtain ⟨e, he, hmeans⟩ := his.compiles Program.means_finish
    obtain ⟨f, hf, hfmeans⟩ := hjs.compiles Program.means_finish
    rw [mul_one] at hmeans hfmeans
    have hboth := hmeans.either (hfmeans.either .never)
    rw [add_zero] at hboth
    refine ⟨.choose (.either e (.either f .never)) next, ?_, hboth.choose hnext⟩
    simp only [Program.ofSequence, Program.ofItem, Program.ofAlternatives, he, hf]
    rfl
  least_le u hu := by
    have hmin : (Width.total [.branch [is, js]]).least ≤ min (Width.total is).least (Width.total js).least := by
      simp only [Width.least_total_cons, Width.least_total_nil, Width.ofItem, Width.ofAlternatives, Width.ofSequence,
        Width.either, Width.bounded]
      omega
    rcases hu with hu | hu
    · exact hmin.trans ((Nat.min_le_left ..).trans (his.least_le u hu))
    · exact hmin.trans ((Nat.min_le_right ..).trans (hjs.least_le u hu))

/-! ## Expressions -/

/-- The rest that is satisfied at the end of the subject only. -/
theorem accepts_atEnd :
    Accepts s (fun p m => if p = s.size then (true, m.moved p) else .failed m) 1 := fun p m hp => by
  rw [Language.mem_one, List.drop_eq_nil_iff, Array.length_toList]
  by_cases hsize : p = s.size
  · simp [hsize]
  · simp only [if_neg hsize, Outcome.failed, Bool.false_eq_true, false_iff]
    omega

/-- What an expression without modes matches is what its sequence denotes. -/
theorem Denotes.exists_fullMatch_iff (his : Denotes is L) (hs : parse u = .ok (is, {})) :
    ∃ e, Expr.ofText u = .ok e ∧ ∀ text, e.fullMatch text = true ↔ text ∈ L := by
  obtain ⟨e, he, hmeans⟩ := his.compiles Program.means_finish
  rw [mul_one] at hmeans
  refine ⟨⟨e, (Width.ofSequence is).least, e.groups⟩, ?_, fun text => ?_⟩
  · simp only [Expr.ofText, hs]
    change (Program.ofSequence {} .finish is >>= _) = _
    rw [he]
    rfl
  · have hrun := hmeans text.toArray false none _ _ accepts_atEnd 0 { marks := .replicate (2 * e.groups) none }
      (Nat.zero_le _)
    rw [mul_one, List.drop_zero] at hrun
    rw [Expr.fullMatch, Bool.and_eq_true, hrun]
    -- a text that is too short to be tried would not have matched
    refine and_iff_right_of_imp fun htext => ?_
    have hleast := his.least_le text htext
    simp only [Width.ofSequence, Width.bounded, List.size_toArray, decide_eq_true_eq]
    omega

end EntityGen.Pattern
