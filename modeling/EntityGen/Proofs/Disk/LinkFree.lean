import EntityGen.Proofs.Disk.Locate

/-! Where there are no links, a path leads through the places that it names. -/

namespace EntityGen.Disk

/-- One name further from a place. -/
def step (here : Place) (name : String) : Place := if name = ".." then here.dropLast else here ++ [name]

/-- The places on the way, the first one and the last one included. -/
def stops (here : Place) : List String → List Place
  | [] => [here]
  | name :: rest => here :: stops (step here name) rest

/-- The way is open as far as names and lengths go. -/
def IsProper (p : Path) : Prop :=
  p.hasNul = false ∧ p.text.utf8ByteSize ≤ pathLimit ∧
    ∀ name ∈ p.names, name ≠ ".." → name.utf8ByteSize ≤ nameLimit

theorem step_enter {name : String} (here : Place) (hn : name ≠ "..") : step here name = here ++ [name] :=
  if_neg hn

variable {d d' : Disk} {followLast : Bool} {n : Nat} {here l : Place} {names : List String} {p : Path}

theorem stops_append {rest : List String} (hl : l ∈ stops here names) :
    l ∈ stops here (names ++ rest) := by
  induction names generalizing here with
  | nil =>
    rw [stops, List.mem_singleton] at hl
    subst hl
    cases rest <;> simp [stops]
  | cons name names ih =>
    rw [stops, List.mem_cons] at hl
    rw [List.cons_append, stops, List.mem_cons]
    exact hl.imp id ih

/-- No way goes on behind what is no directory. -/
theorem walk_ne_nameTooLong (hh : d.get? here ≠ some .directory) :
    d.walk followLast n here names ≠ .error .nameTooLong := by
  obtain ⟨jump, hj⟩ := walk_eq_walkWith d followLast n
  rw [hj]
  cases names with
  | nil => simp only [walkWith]; split <;> simp
  | cons name rest =>
    simp only [walkWith]
    split
    · next hd => exact absurd hd hh
    · simp
    · simp

namespace LinkFree

theorem walkWith_eq (hl : d.LinkFree) {b b' : Bool} {jump jump' : Place → List String → Except Refusal Place}
    (here : Place) (names : List String) :
    walkWith d b jump here names = walkWith d b' jump' here names := by
  induction names generalizing here with
  | nil => rfl
  | cons name rest ih =>
    simp only [walkWith]
    split
    · split
      · exact ih _
      · split
        · rfl
        · split
          · next t ht => exact absurd ht (hl _ t)
          · exact ih _
          · rfl
    · rfl
    · rfl

theorem locate_eq (hl : d.LinkFree) (b b' : Bool) (p : Path) : d.locate b p = d.locate b' p := by
  unfold locate
  rw [show d.walk b linkLimit = d.walk b' linkLimit from funext fun here => funext (hl.walkWith_eq here)]

theorem walk_directory_iff (hl : d.LinkFree) :
    (d.walk followLast n here names = .ok l ∧ d.get? l = some .directory) ↔
      (∀ m ∈ stops here names, d.get? m = some .directory) ∧
        (∀ name ∈ names, name ≠ ".." → name.utf8ByteSize ≤ nameLimit) ∧ l = names.foldl step here := by
  rw [walk_eq_ok_iff]
  constructor
  · rintro ⟨h, hd⟩
    induction h with
    | here => simpa [stops] using hd
    | back hh _ ih =>
      obtain ⟨hs, hn, hl⟩ := ih hd
      exact ⟨List.forall_mem_cons.2 ⟨hh, hs⟩, List.forall_mem_cons.2 ⟨fun h => absurd rfl h, hn⟩, hl⟩
    | @enter here name e n rest l hh hne hsize he _ _ ih =>
      obtain ⟨hs, hn, hl⟩ := ih hd
      rw [stops, List.foldl_cons, step_enter here hne]
      exact ⟨List.forall_mem_cons.2 ⟨hh, hs⟩, List.forall_mem_cons.2 ⟨fun _ => hsize, hn⟩, hl⟩
    | missing _ _ _ he => rw [he] at hd; cases hd
    | stop _ _ _ ht => exact absurd ht (hl _ _)
    | follow _ _ _ ht => exact absurd ht (hl _ _)
  · rintro ⟨hs, hn, rfl⟩
    induction names generalizing here with
    | nil =>
      have hh : d.get? here = some .directory := hs here (by simp [stops])
      exact ⟨.here (by simp [hh]), hh⟩
    | cons name rest ih =>
      obtain ⟨hh, hs⟩ := List.forall_mem_cons.1 hs
      obtain ⟨hsize, hn⟩ := List.forall_mem_cons.1 hn
      obtain ⟨h, hd⟩ := ih hs hn
      refine ⟨?_, hd⟩
      by_cases hne : name = ".."
      · subst hne
        exact .back hh h
      · have he : d.get? (step here name) = some .directory := hs _ (by cases rest <;> simp [stops])
        rw [List.foldl_cons]
        rw [step_enter here hne] at h he ⊢
        exact .enter hh hne (hsize hne) he nofun h

theorem locate_directory_iff (hl : d.LinkFree) :
    (d.locate followLast p = .ok l ∧ d.get? l = some .directory) ↔
      IsProper p ∧ (∀ m ∈ stops (d.start p) p.names, d.get? m = some .directory) ∧
        l = p.names.foldl step (d.start p) := by
  rw [locate_eq_ok_iff, and_assoc, and_assoc, ← walk_eq_ok_iff, hl.walk_directory_iff]
  constructor
  · rintro ⟨hnul, htext, hs, hn, he⟩
    exact ⟨⟨hnul, htext, hn⟩, hs, he⟩
  · rintro ⟨⟨hnul, htext, hn⟩, hs, he⟩
    exact ⟨hnul, htext, hs, hn, he⟩

theorem isDirectory_true_iff (hl : d.LinkFree) : d.isDirectory p = .ok true ↔
    IsProper p ∧ ∀ m ∈ stops (d.start p) p.names, d.get? m = some .directory := by
  simp only [isDirectory_iff, hl.locate_directory_iff, exists_and_left, exists_eq, and_true]

theorem walk_nameTooLong (hl : d.LinkFree) (hdir : ∀ l, d.get? l = some .directory → d'.get? l = some .directory)
    (h : d.walk followLast n here names = .error .nameTooLong) :
    d'.walk followLast n here names = .error .nameTooLong := by
  induction names generalizing here with
  | nil =>
    by_cases hh : (d.get? here).isSome
    · rw [walk_nil hh] at h
      cases h
    · exact absurd h (walk_ne_nameTooLong fun hd => hh (by simp [hd]))
  | cons name rest ih =>
    by_cases hh : d.get? here = some .directory
    · have hh' := hdir _ hh
      by_cases hn : name = ".."
      · subst hn
        rw [walk_back hh] at h
        rw [walk_back hh']
        exact ih h
      · by_cases hs : name.utf8ByteSize ≤ nameLimit
        · cases he : d.get? (here ++ [name]) with
          | none =>
            obtain ⟨jump, hj⟩ := walk_eq_walkWith d followLast n
            simp only [hj, walkWith_of_directory hh hn hs, he] at h
            split at h <;> cases h
          | some e =>
            have hlink : ∀ t, e ≠ .link t := fun t ht => hl _ t (ht ▸ he)
            rw [walk_enter hh hn hs he hlink] at h
            by_cases hd : d.get? (here ++ [name]) = some .directory
            · rw [walk_enter hh' hn hs (hdir _ hd) fun t ht => by cases ht]
              exact ih h
            · exact absurd h (walk_ne_nameTooLong hd)
        · exact walk_long hh' hn (Nat.lt_of_not_le hs)
    · exact absurd h (walk_ne_nameTooLong hh)

theorem locate_nameTooLong (hl : d.LinkFree) (home : d'.home = d.home)
    (hdir : ∀ l, d.get? l = some .directory → d'.get? l = some .directory)
    (h : d.locate followLast p = .error (.refusal .nameTooLong)) :
    d'.locate followLast p = .error (.refusal .nameTooLong) := by
  unfold locate at h ⊢
  have hs : d'.start p = d.start p := by simp [start, home]
  by_cases hn : p.hasNul
  · rw [if_pos hn] at h; cases h
  · rw [if_neg hn] at h ⊢
    by_cases ht : pathLimit < p.text.utf8ByteSize
    · rw [if_pos ht]
    · rw [if_neg ht] at h ⊢
      cases hw : d.walk followLast linkLimit (d.start p) p.names with
      | ok l => rw [hw] at h; cases h
      | error r =>
        rw [hw] at h
        cases h
        rw [hs, hl.walk_nameTooLong hdir hw]
        rfl

/-- What leads to a directory hangs on the directories alone. -/
theorem isDirectory_congr (hl : d.LinkFree) (hl' : d'.LinkFree) (home : d'.home = d.home)
    (hdir : ∀ l, d'.get? l = some .directory ↔ d.get? l = some .directory) (p : Path) :
    d'.isDirectory p = d.isDirectory p := by
  have hs : d'.start p = d.start p := by simp [start, home]
  have htrue : d'.isDirectory p = .ok true ↔ d.isDirectory p = .ok true := by
    simp only [hl.isDirectory_true_iff, hl'.isDirectory_true_iff, hs, hdir]
  have herr : ∀ r, d'.isDirectory p = .error r ↔ d.isDirectory p = .error r := by
    intro r
    simp only [isDirectory, test_eq_error_iff]
    refine and_congr_right fun _ => ⟨?_, ?_⟩
    · exact hl'.locate_nameTooLong home.symm fun l => (hdir l).1
    · exact hl.locate_nameTooLong home fun l => (hdir l).2
  cases h : d.isDirectory p with
  | error r => exact (herr r).2 h
  | ok b =>
    cases h' : d'.isDirectory p with
    | error r => rw [(herr r).1 h'] at h; cases h
    | ok b' =>
      rw [h, h'] at htrue
      cases b <;> cases b' <;> simp_all

end LinkFree
end EntityGen.Disk
