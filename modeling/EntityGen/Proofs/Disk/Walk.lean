import EntityGen.Disk.Lookup

/-! Where names lead, said by rules, and how far that hangs on the directories and links of a disk. -/

namespace EntityGen.Disk

/-- Following at most `links` links, the names lead from a place that is looked up to the place named last. -/
inductive Leads (d : Disk) (followLast : Bool) : (links : Nat) → Place → List String → Place → Prop
  | here : (d.get? here).isSome → Leads d followLast n here [] here
  | back : d.get? here = some .directory → Leads d followLast n here.dropLast rest l →
      Leads d followLast n here (".." :: rest) l
  | enter : d.get? here = some .directory → name ≠ ".." → name.utf8ByteSize ≤ nameLimit →
      d.get? (here ++ [name]) = some e → (∀ t, e ≠ .link t) →
      Leads d followLast n (here ++ [name]) rest l → Leads d followLast n here (name :: rest) l
  | missing : d.get? here = some .directory → name ≠ ".." → name.utf8ByteSize ≤ nameLimit →
      d.get? (here ++ [name]) = none → Leads d followLast n here [name] (here ++ [name])
  | stop : d.get? here = some .directory → name ≠ ".." → name.utf8ByteSize ≤ nameLimit →
      d.get? (here ++ [name]) = some (.link t) → followLast = false →
      Leads d followLast n here [name] (here ++ [name])
  | follow : d.get? here = some .directory → name ≠ ".." → name.utf8ByteSize ≤ nameLimit →
      d.get? (here ++ [name]) = some (.link t) → (rest = [] → followLast = true) →
      Leads d followLast n (linkStart here t) (t.names ++ rest) l →
      Leads d followLast (n + 1) here (name :: rest) l

theorem leads_of_walkWith {d : Disk} {followLast : Bool} {n : Nat} {l : Place}
    {jump : Place → List String → Except Refusal Place}
    (hj : ∀ here t name rest, d.get? here = some .directory → name ≠ ".." → name.utf8ByteSize ≤ nameLimit →
      d.get? (here ++ [name]) = some (.link t) → (rest = [] → followLast = true) →
      jump (linkStart here t) (t.names ++ rest) = .ok l → Leads d followLast n here (name :: rest) l) :
    ∀ names here, walkWith d followLast jump here names = .ok l → Leads d followLast n here names l := by
  intro names
  induction names with
  | nil =>
    intro here h
    simp only [walkWith] at h
    by_cases hh : (d.get? here).isSome
    · rw [if_pos hh] at h
      cases h
      exact .here hh
    · rw [if_neg hh] at h
      cases h
  | cons name rest ih =>
    intro here h
    simp only [walkWith] at h
    split at h
    · next hd =>
      split at h
      · next hn => subst hn; exact .back hd (ih _ h)
      · next hn =>
        split at h
        · cases h
        · next hs =>
          have hs := Nat.le_of_not_lt hs
          split at h
          · next t ht =>
            cases rest with
            | nil =>
              cases followLast with
              | false => cases h; exact .stop hd hn hs ht rfl
              | true => exact hj _ _ _ _ hd hn hs ht (fun _ => rfl) h
            | cons => exact hj _ _ _ _ hd hn hs ht (fun hr => absurd hr (List.cons_ne_nil _ _)) h
          · next e hl he => exact .enter hd hn hs he hl (ih _ h)
          · next he =>
            cases rest with
            | nil => cases h; exact .missing hd hn hs he
            | cons => cases h
    · cases h
    · cases h

theorem walk_eq_walkWith (d : Disk) (followLast : Bool) (n : Nat) :
    ∃ jump, d.walk followLast n = walkWith d followLast jump := by
  cases n <;> exact ⟨_, rfl⟩

section Steps

variable {d : Disk} {followLast : Bool} {n : Nat} {here : Place} {name : String} {rest : List String}

theorem walk_nil (hh : (d.get? here).isSome) : d.walk followLast n here [] = .ok here := by
  obtain ⟨jump, hj⟩ := walk_eq_walkWith d followLast n
  rw [hj, walkWith, if_pos hh]

theorem walk_back (hd : d.get? here = some .directory) :
    d.walk followLast n here (".." :: rest) = d.walk followLast n here.dropLast rest := by
  obtain ⟨jump, hj⟩ := walk_eq_walkWith d followLast n
  simp only [hj, walkWith, hd, if_true]

theorem walk_long (hd : d.get? here = some .directory) (hn : name ≠ "..")
    (hs : nameLimit < name.utf8ByteSize) : d.walk followLast n here (name :: rest) = .error .nameTooLong := by
  obtain ⟨jump, hj⟩ := walk_eq_walkWith d followLast n
  simp only [hj, walkWith, hd, if_neg hn, if_pos hs]

theorem walk_enter {e : Entry} (hd : d.get? here = some .directory) (hn : name ≠ "..")
    (hs : name.utf8ByteSize ≤ nameLimit) (he : d.get? (here ++ [name]) = some e) (hl : ∀ t, e ≠ .link t) :
    d.walk followLast n here (name :: rest) = d.walk followLast n (here ++ [name]) rest := by
  obtain ⟨jump, hj⟩ := walk_eq_walkWith d followLast n
  simp only [hj, walkWith_of_directory hd hn hs, he]

theorem walk_missing (hd : d.get? here = some .directory) (hn : name ≠ "..")
    (hs : name.utf8ByteSize ≤ nameLimit) (he : d.get? (here ++ [name]) = none) :
    d.walk followLast n here [name] = .ok (here ++ [name]) := by
  obtain ⟨jump, hj⟩ := walk_eq_walkWith d followLast n
  rw [hj, walkWith_of_directory hd hn hs, he]
  rfl

theorem walk_stop {t : Path} (hd : d.get? here = some .directory) (hn : name ≠ "..")
    (hs : name.utf8ByteSize ≤ nameLimit) (ht : d.get? (here ++ [name]) = some (.link t)) :
    d.walk false n here [name] = .ok (here ++ [name]) := by
  obtain ⟨jump, hj⟩ := walk_eq_walkWith d false n
  rw [hj, walkWith_of_directory hd hn hs, ht]
  rfl

theorem walk_follow {t : Path} (hd : d.get? here = some .directory) (hn : name ≠ "..")
    (hs : name.utf8ByteSize ≤ nameLimit) (ht : d.get? (here ++ [name]) = some (.link t))
    (hr : rest = [] → followLast = true) :
    d.walk followLast (n + 1) here (name :: rest) =
      d.walk followLast n (linkStart here t) (t.names ++ rest) := by
  have hb : (rest.isEmpty && !followLast) = false := by
    cases rest with
    | nil => simp [hr rfl]
    | cons => rfl
  simp only [walk, walkWith_of_directory hd hn hs, ht, hb, Bool.false_eq_true, if_false]

end Steps

theorem leads_of_walk {d : Disk} {followLast : Bool} {n : Nat} {here l : Place} {names : List String}
    (h : d.walk followLast n here names = .ok l) : Leads d followLast n here names l := by
  induction n generalizing here names with
  | zero => exact leads_of_walkWith (fun _ _ _ _ _ _ _ _ _ h => by cases h) _ _ h
  | succ n ih =>
    refine leads_of_walkWith (fun here t name rest hd hn hs ht hr h => ?_) _ _ h
    exact .follow hd hn hs ht hr (ih h)

theorem Leads.walk {d : Disk} {followLast : Bool} {n : Nat} {here l : Place} {names : List String}
    (h : Leads d followLast n here names l) : d.walk followLast n here names = .ok l := by
  induction h with
  | here hh => exact walk_nil hh
  | back hd _ ih => rw [walk_back hd, ih]
  | enter hd hn hs he hl _ ih => rw [walk_enter hd hn hs he hl, ih]
  | missing hd hn hs he => exact walk_missing hd hn hs he
  | stop hd hn hs ht hb => subst hb; exact walk_stop hd hn hs ht
  | follow hd hn hs ht hr _ ih => rw [walk_follow hd hn hs ht hr, ih]

theorem walk_eq_ok_iff {d : Disk} {followLast : Bool} {n : Nat} {here l : Place} {names : List String} :
    d.walk followLast n here names = .ok l ↔ Leads d followLast n here names l :=
  ⟨leads_of_walk, Leads.walk⟩

/-- All directories and links of a disk are on another one too. -/
structure Keeps (d d' : Disk) : Prop where
  home : d'.home = d.home
  directory : ∀ l, d.get? l = some .directory → d'.get? l = some .directory
  link : ∀ l t, d.get? l = some (.link t) → d'.get? l = some (.link t)

theorem Keeps.refl (d : Disk) : d.Keeps d := ⟨rfl, fun _ h => h, fun _ _ h => h⟩

theorem Keeps.trans {d d' d'' : Disk} (h : d.Keeps d') (h' : d'.Keeps d'') : d.Keeps d'' where
  home := h'.home.trans h.home
  directory l hl := h'.directory l (h.directory l hl)
  link l t hl := h'.link l t (h.link l t hl)

variable {d d' : Disk} {followLast : Bool} {n : Nat} {here l : Place} {names rest : List String}

theorem Leads.of_file {content : ByteArray} (h : Leads d followLast n here names l)
    (hf : d.get? here = some (.file content)) : names = [] ∧ l = here := by
  cases h with
  | here => exact ⟨rfl, rfl⟩
  | back hd | enter hd | missing hd | stop hd | follow hd => rw [hd] at hf; cases hf

/-- A way does not change where nothing but files comes and goes, and no link at its end. -/
theorem Leads.mono (k : d.Keeps d') (h : Leads d followLast n here names l)
    (hsome : (d.get? l).isSome → (d'.get? l).isSome)
    (hlink : ∀ t, d'.get? l = some (.link t) → d.get? l = some (.link t)) :
    Leads d' followLast n here names l := by
  induction h with
  | here hh => exact .here (hsome hh)
  | back hd _ ih => exact .back (k.directory _ hd) (ih hsome hlink)
  | @enter here name e n rest l hd hn hs he hl h ih =>
    cases e with
    | directory => exact .enter (k.directory _ hd) hn hs (k.directory _ he) hl (ih hsome hlink)
    | link t => exact absurd rfl (hl t)
    | file content =>
      obtain ⟨rfl, rfl⟩ := h.of_file he
      obtain ⟨e', he'⟩ := Option.isSome_iff_exists.1 (hsome (by simp [he]))
      refine .enter (k.directory _ hd) hn hs he' (fun t ht => ?_) (ih hsome hlink)
      have := hlink t (he'.trans (congrArg some ht))
      rw [he] at this
      cases this
  | @missing here name n hd hn hs he =>
    cases he' : d'.get? (here ++ [name]) with
    | none => exact .missing (k.directory _ hd) hn hs he'
    | some e' =>
      refine .enter (k.directory _ hd) hn hs he' (fun t ht => ?_) (.here (by simp [he']))
      have := hlink t (he'.trans (congrArg some ht))
      rw [he] at this
      cases this
  | stop hd hn hs ht hb => exact .stop (k.directory _ hd) hn hs (k.link _ _ ht) hb
  | follow hd hn hs ht hr _ ih => exact .follow (k.directory _ hd) hn hs (k.link _ _ ht) hr (ih hsome hlink)

/-- What comes behind a way to a directory goes on from there. -/
theorem Leads.walk_append {m : Place} (h : Leads d true n here names m) (hm : d.get? m = some .directory)
    (hr : rest ≠ []) :
    ∃ k, ∀ followLast, d.walk followLast n here (names ++ rest) = d.walk followLast k m rest := by
  induction h with
  | here => exact ⟨_, fun _ => rfl⟩
  | back hd _ ih =>
    obtain ⟨k, hk⟩ := ih hm
    exact ⟨k, fun b => by rw [List.cons_append, walk_back hd, hk]⟩
  | enter hd hn hs he hl _ ih =>
    obtain ⟨k, hk⟩ := ih hm
    exact ⟨k, fun b => by rw [List.cons_append, walk_enter hd hn hs he hl, hk]⟩
  | missing hd hn hs he => rw [he] at hm; cases hm
  | stop hd hn hs ht hb => cases hb
  | follow hd hn hs ht _ _ ih =>
    obtain ⟨k, hk⟩ := ih hm
    refine ⟨k, fun b => ?_⟩
    rw [List.cons_append, walk_follow hd hn hs ht fun h => absurd (List.append_eq_nil_iff.1 h).2 hr,
      ← List.append_assoc, hk]

end EntityGen.Disk
