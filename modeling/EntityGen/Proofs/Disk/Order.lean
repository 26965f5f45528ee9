import EntityGen.Disk.Lookup

/-! The order of places is linear, so that sorting them leaves nothing open. -/

namespace EntityGen.Disk

theorem charsLe_total (s t : List Char) : charsLe s t || charsLe t s := by
  induction s generalizing t with
  | nil => rfl
  | cons a s ih =>
    cases t with
    | nil => rfl
    | cons b t =>
      have := ih t
      simp only [charsLe, Bool.or_eq_true, Bool.and_eq_true, decide_eq_true_eq] at this ⊢
      rcases Nat.lt_trichotomy a.toNat b.toNat with h | h | h
      · exact .inl (.inl h)
      · have hab := Char.toNat_inj.1 h
        exact this.imp (fun h => .inr ⟨hab, h⟩) fun h => .inr ⟨hab.symm, h⟩
      · exact .inr (.inl h)

theorem charsLe_trans (s t u : List Char) (hst : charsLe s t) (htu : charsLe t u) : charsLe s u := by
  induction s generalizing t u with
  | nil => rfl
  | cons a s ih =>
    cases t with
    | nil => cases hst
    | cons b t =>
      cases u with
      | nil => cases htu
      | cons c u =>
        simp only [charsLe, Bool.or_eq_true, Bool.and_eq_true, decide_eq_true_eq] at hst htu ⊢
        rcases hst with hab | ⟨rfl, hst⟩
        · rcases htu with hbc | ⟨rfl, _⟩
          · exact .inl (Nat.lt_trans hab hbc)
          · exact .inl hab
        · exact htu.imp id fun ⟨hbc, htu⟩ => ⟨hbc, ih t u hst htu⟩

theorem charsLe_antisymm (s t : List Char) (hst : charsLe s t) (hts : charsLe t s) : s = t := by
  induction s generalizing t with
  | nil =>
    cases t with
    | nil => rfl
    | cons => cases hts
  | cons a s ih =>
    cases t with
    | nil => cases hst
    | cons b t =>
      simp only [charsLe, Bool.or_eq_true, Bool.and_eq_true, decide_eq_true_eq] at hst hts
      rcases hst with hab | ⟨rfl, hst⟩
      · rcases hts with hba | ⟨rfl, _⟩
        · exact absurd hab (Nat.lt_asymm hba)
        · exact absurd hab (Nat.lt_irrefl _)
      · rcases hts with haa | ⟨_, hts⟩
        · exact absurd haa (Nat.lt_irrefl _)
        · rw [ih t hst hts]

theorem placeLe_total (l m : Place) : placeLe l m || placeLe m l := by
  induction l generalizing m with
  | nil => rfl
  | cons a l ih =>
    cases m with
    | nil => rfl
    | cons b m =>
      by_cases h : a = b
      · simp only [placeLe, h, if_true]
        exact ih m
      · simp only [placeLe, if_neg h, if_neg (Ne.symm h)]
        exact charsLe_total _ _

theorem placeLe_trans (l m n : Place) (hlm : placeLe l m) (hmn : placeLe m n) : placeLe l n := by
  induction l generalizing m n with
  | nil => rfl
  | cons a l ih =>
    cases m with
    | nil => cases hlm
    | cons b m =>
      cases n with
      | nil => cases hmn
      | cons c n =>
        simp only [placeLe] at hlm hmn ⊢
        by_cases hab : a = b
        · subst hab
          by_cases hac : a = c
          · simp only [if_pos hac, if_true] at hlm hmn ⊢
            exact ih m n hlm hmn
          · rwa [if_neg hac] at hmn ⊢
        · rw [if_neg hab] at hlm
          by_cases hbc : b = c
          · subst hbc
            rwa [if_neg hab]
          · rw [if_neg hbc] at hmn
            by_cases hac : a = c
            · subst hac
              exact absurd (String.toList_inj.1 (charsLe_antisymm _ _ hlm hmn)) hab
            · rw [if_neg hac]
              exact charsLe_trans _ _ _ hlm hmn

theorem placeLe_antisymm (l m : Place) (hlm : placeLe l m) (hml : placeLe m l) : l = m := by
  induction l generalizing m with
  | nil =>
    cases m with
    | nil => rfl
    | cons => cases hml
  | cons a l ih =>
    cases m with
    | nil => cases hlm
    | cons b m =>
      simp only [placeLe] at hlm hml
      by_cases hab : a = b
      · subst hab
        simp only [if_true] at hlm hml
        rw [ih m hlm hml]
      · rw [if_neg hab] at hlm
        rw [if_neg (Ne.symm hab)] at hml
        exact absurd (String.toList_inj.1 (charsLe_antisymm _ _ hlm hml)) hab

def sorted (ls : List Place) : List Place := ls.mergeSort placeLe

theorem sorted_perm (ls : List Place) : (sorted ls).Perm ls := List.mergeSort_perm ls placeLe

theorem sorted_pairwise (ls : List Place) : (sorted ls).Pairwise fun l m => placeLe l m :=
  List.pairwise_mergeSort placeLe_trans placeLe_total ls

/-- What is in order stays so when some of it is left out. -/
theorem filter_sorted (q : Place → Bool) (ls : List Place) :
    (sorted ls).filter q = sorted (ls.filter q) := by
  apply List.Perm.eq_of_pairwise (fun l m _ _ => placeLe_antisymm l m)
  · exact (sorted_pairwise ls).filter q
  · exact sorted_pairwise _
  · exact ((sorted_perm ls).filter q).trans (sorted_perm _).symm

end EntityGen.Disk
