import EntityGen.Proofs.Disk.Loss

/-! What the way to a file hangs on, and the way to a directory does not. -/

namespace EntityGen.Disk

variable {d d' : Disk} {followLast : Bool} {given : Place → Prop} {n : Nat} {here k l l' m : Place} {name : String}
  {names rest : List String} {p : Path} {e : Entry} {t : Path} {content : ByteArray}

/-! ## How a way goes on -/

theorem Leads.of_back (h : Leads d followLast n here (".." :: rest) l) :
    d.get? here = some .directory ∧ Leads d followLast n here.dropLast rest l := by
  cases h with
  | back hd h => exact ⟨hd, h⟩
  | enter _ hn | missing _ hn | stop _ hn | follow _ hn => exact absurd rfl hn

theorem Leads.of_enter (hn : name ≠ "..") (he : d.get? (here ++ [name]) = some e) (hl : ∀ t, e ≠ .link t)
    (h : Leads d followLast n here (name :: rest) l) : Leads d followLast n (here ++ [name]) rest l := by
  cases h with
  | back => exact absurd rfl hn
  | enter _ _ _ _ _ h => exact h
  | missing _ _ _ hnone => exact absurd (hnone.symm.trans he) nofun
  | stop _ _ _ ht | follow _ _ _ ht => exact absurd (Option.some.inj (he.symm.trans ht)) (hl _)

theorem Leads.of_follow (hn : name ≠ "..") (ht : d.get? (here ++ [name]) = some (.link t))
    (h : Leads d true n here (name :: rest) l) :
    ∃ k, n = k + 1 ∧ Leads d true k (linkStart here t) (t.names ++ rest) l := by
  cases h with
  | back => exact absurd rfl hn
  | enter _ _ _ he hl => exact absurd (Option.some.inj (he.symm.trans ht)) (hl _)
  | missing _ _ _ hnone => exact absurd (hnone.symm.trans ht) nofun
  | stop _ _ _ _ hb => cases hb
  | follow _ _ _ ht' _ h =>
    cases ht.symm.trans ht'
    exact ⟨_, rfl, h⟩

/-- Where nothing is a way ends. -/
theorem Leads.of_missing (hn : name ≠ "..") (hnone : d.get? (here ++ [name]) = none)
    (h : Leads d followLast n here (name :: rest) l) : l = here ++ [name] := by
  cases h with
  | back => exact absurd rfl hn
  | missing => rfl
  | enter _ _ _ he => exact absurd (hnone.symm.trans he) nofun
  | stop _ _ _ ht | follow _ _ _ ht => exact absurd (hnone.symm.trans ht) nofun

/-- No way goes on from a file, however many links may be followed. -/
theorem Leads.append_of_file {n' : Nat} (h : Leads d true n here names l)
    (hf : d.get? l = some (.file content)) (h' : Leads d true n' here (names ++ rest) l') : rest = [] ∧ l' = l := by
  induction h generalizing n' with
  | here => exact h'.of_file hf
  | back _ _ ih => exact ih hf h'.of_back.2
  | enter _ hn _ he hl _ ih => exact ih hf (h'.of_enter hn he hl)
  | missing _ _ _ he =>
    rw [he] at hf
    cases hf
  | stop _ _ _ _ hb => cases hb
  | follow _ hn _ ht _ _ ih =>
    rw [List.cons_append] at h'
    obtain ⟨k', -, h'⟩ := h'.of_follow hn ht
    rw [← List.append_assoc] at h'
    exact ih hf h'

/-- A way that goes on has led to a directory before. -/
theorem Leads.exists_directory (h : Leads d followLast n here (names ++ rest) l) (hr : rest ≠ []) :
    ∃ m, Leads d true n here names m ∧ d.get? m = some .directory := by
  generalize hall : names ++ rest = all at h
  induction h generalizing names with
  | here => exact absurd (List.append_eq_nil_iff.1 hall).2 hr
  | back hd _ ih =>
    cases names with
    | nil => exact ⟨_, .here (by rw [hd]; rfl), hd⟩
    | cons name names =>
      obtain ⟨rfl, rfl⟩ := List.cons.inj hall
      obtain ⟨m, hm, hmd⟩ := ih rfl
      exact ⟨m, .back hd hm, hmd⟩
  | enter hd hn hs he hl _ ih =>
    cases names with
    | nil => exact ⟨_, .here (by rw [hd]; rfl), hd⟩
    | cons name names =>
      obtain ⟨rfl, rfl⟩ := List.cons.inj hall
      obtain ⟨m, hm, hmd⟩ := ih rfl
      exact ⟨m, .enter hd hn hs he hl hm, hmd⟩
  | missing hd | stop hd =>
    cases names with
    | nil => exact ⟨_, .here (by rw [hd]; rfl), hd⟩
    | cons name names => exact absurd (List.append_eq_nil_iff.1 (List.cons.inj hall).2).2 hr
  | @follow here name t rest' n l hd hn hs ht _ _ ih =>
    cases names with
    | nil => exact ⟨_, .here (by rw [hd]; rfl), hd⟩
    | cons name names =>
      obtain ⟨rfl, rfl⟩ := List.cons.inj hall
      obtain ⟨m, hm, hmd⟩ := ih (List.append_assoc t.names names rest)
      exact ⟨m, .follow hd hn hs ht (fun _ => rfl) hm, hmd⟩

/-! ## Ways to directories -/

/-- A file stands at a place, or a link to one. -/
def IsFileLike (d : Disk) (l : Place) : Prop :=
  (∃ content, d.get? l = some (.file content)) ∨
    ∃ t n f content, d.get? l = some (.link t) ∧ Leads d true n (linkStart l.dropLast t) t.names f ∧
      d.get? f = some (.file content)

theorem IsFileLike.not_directory (h : d.IsFileLike l) : d.get? l ≠ some .directory := by
  rcases h with ⟨content, h⟩ | ⟨t, n, f, content, h, -⟩ <;> simp [h]

theorem Loses.get?_of_directory (hj : d.Loses given d') (hg : ∀ k, given k → d.get? k ≠ some .directory)
    (hl : d.get? l = some .directory) : d'.get? l = some .directory :=
  (hj.get? l).elim (·.trans hl) fun hgone => absurd hl (hg l hgone.2)

/-- The way to a directory goes over no file and no link to one. -/
theorem Leads.of_loses_fileLike (h : Leads d true n here names m) (hm : d.get? m = some .directory)
    (hj : d.Loses d.IsFileLike d') : Leads d' true n here names m := by
  have hkeep : ∀ {l}, d.get? l = some .directory → d'.get? l = some .directory :=
    hj.get?_of_directory fun _ => IsFileLike.not_directory
  induction h with
  | here => exact .here (by rw [hkeep hm]; rfl)
  | back hd _ ih => exact .back (hkeep hd) (ih hm)
  | @enter here name e n rest m hd hn hs he hl h ih =>
    cases e with
    | directory => exact .enter (hkeep hd) hn hs (hkeep he) nofun (ih hm)
    | link t => exact absurd rfl (hl t)
    | file content =>
      obtain ⟨-, rfl⟩ := h.of_file he
      rw [he] at hm
      cases hm
  | missing _ _ _ he =>
    rw [he] at hm
    cases hm
  | stop _ _ _ _ hb => cases hb
  | @follow here name t rest n m hd hn hs ht hr h ih =>
    rcases hj.get? (here ++ [name]) with hsame | ⟨-, hfile⟩
    · exact .follow (hkeep hd) hn hs (hsame.trans ht) hr (ih hm)
    · rcases hfile with ⟨content, hfile⟩ | ⟨t', n', f, content, ht', hf, hfile⟩
      · rw [ht] at hfile
        cases hfile
      · -- The link leads to a file, from which no way leads on to a directory.
        cases ht.symm.trans ht'
        rw [List.dropLast_concat] at hf
        obtain ⟨-, rfl⟩ := hf.append_of_file hfile h
        rw [hfile] at hm
        cases hm

theorem Loses.locate_directory (hj : d.Loses d.IsFileLike d') (hp : d.locate true p = .ok m)
    (hm : d.get? m = some .directory) : d'.locate true p = .ok m := by
  rw [locate_eq_ok_iff] at hp ⊢
  have hs : d'.start p = d.start p := by simp [start, hj.home]
  rw [hs]
  exact ⟨hp.1, hp.2.1, hp.2.2.of_loses_fileLike hm hj⟩

/-! ## Ways to files -/

/-- Names lead to a file, links being followed. -/
def LeadsToFile (d : Disk) (n : Nat) (here : Place) (names : List String) : Prop :=
  ∃ l content, Leads d true n here names l ∧ d.get? l = some (.file content)

theorem get?_erase {d : Disk} (hl : l ≠ []) (m : Place) :
    (d.erase l).get? m = if m = l then none else d.get? m := by
  split
  · next h => rw [h, get?_erase_self hl]
  · next h => exact get?_erase_of_ne h

/-- No way to a file leads on to where nothing is. -/
theorem LeadsToFile.get?_isSome (hn : name ≠ "..") (h : d.LeadsToFile n here (name :: rest)) :
    d.get? (here ++ [name]) ≠ none := by
  obtain ⟨l, content, h, hf⟩ := h
  intro hnone
  rw [h.of_missing hn hnone, hnone] at hf
  cases hf

/-- Where no single loss keeps a way from leading to a file, all of them together do not. -/
theorem Leads.of_loses_file (h : Leads d true n here names l) (hf : d.get? l = some (.file content))
    (hj : d.Loses given d') (hg : ∀ k, given k → d.get? k ≠ some .directory)
    (hk : ∀ k, d'.get? k ≠ d.get? k → (d.erase k).LeadsToFile n here names) :
    Leads d' true n here names l ∧ d'.get? l = some (.file content) := by
  have hkeep : ∀ {l}, d.get? l = some .directory → d'.get? l = some .directory := hj.get?_of_directory hg
  -- The entry at which a step arrives is not lost, for without it the way would end there.
  have harrive : ∀ {n here name rest}, name ≠ ".." →
      (∀ k, d'.get? k ≠ d.get? k → (d.erase k).LeadsToFile n here (name :: rest)) →
        d'.get? (here ++ [name]) = d.get? (here ++ [name]) := by
    intro n here name rest hn hk
    by_contra hne
    exact (hk _ hne).get?_isSome hn (get?_erase_self (by simp))
  have hother : ∀ {c k}, d'.get? c = d.get? c → d'.get? k ≠ d.get? k → (d.erase k).get? c = d.get? c := by
    intro c k hc hne
    refine get?_erase_of_ne ?_
    rintro rfl
    exact hne hc
  induction h with
  | @here here n hh =>
    have hsame : d'.get? here = d.get? here := by
      by_contra hne
      obtain ⟨l, c, hl, hlf⟩ := hk here hne
      cases hl
      rw [get?_erase_self (by rintro rfl; cases hf)] at hlf
      cases hlf
    exact ⟨.here (by rw [hsame, hf]; rfl), hsame.trans hf⟩
  | back hd _ ih =>
    obtain ⟨hl, hlf⟩ := ih hf fun k hne => by
      obtain ⟨l, c, h, hlf⟩ := hk k hne
      exact ⟨l, c, h.of_back.2, hlf⟩
    exact ⟨.back (hkeep hd) hl, hlf⟩
  | enter hd hn hs he hnl _ ih =>
    have hsame := harrive hn hk
    obtain ⟨hl, hlf⟩ := ih hf fun k hne => by
      obtain ⟨l, c, h, hlf⟩ := hk k hne
      exact ⟨l, c, h.of_enter hn ((hother hsame hne).trans he) hnl, hlf⟩
    exact ⟨.enter (hkeep hd) hn hs (hsame.trans he) hnl hl, hlf⟩
  | missing _ _ _ he =>
    rw [he] at hf
    cases hf
  | stop _ _ _ _ hb => cases hb
  | follow hd hn hs ht hr _ ih =>
    have hsame := harrive hn hk
    obtain ⟨hl, hlf⟩ := ih hf fun k hne => by
      obtain ⟨l, c, h, hlf⟩ := hk k hne
      obtain ⟨n', hn', h⟩ := h.of_follow hn ((hother hsame hne).trans ht)
      cases hn'
      exact ⟨l, c, h, hlf⟩
    exact ⟨.follow (hkeep hd) hn hs (hsame.trans ht) hr hl, hlf⟩

theorem isFile_iff_leadsToFile : d.isFile p = .ok true ↔
    p.hasNul = false ∧ p.text.utf8ByteSize ≤ pathLimit ∧ d.LeadsToFile linkLimit (d.start p) p.names := by
  simp only [isFile_iff, locate_eq_ok_iff, LeadsToFile]
  constructor
  · rintro ⟨l, content, ⟨hn, ht, h⟩, hf⟩
    exact ⟨hn, ht, l, content, h, hf⟩
  · rintro ⟨hn, ht, l, content, h, hf⟩
    exact ⟨l, content, ⟨hn, ht, h⟩, hf⟩

theorem Loses.isFile (hj : d.Loses given d') (h : d'.isFile p = .ok true) : d.isFile p = .ok true := by
  obtain ⟨l, content, hl, hf⟩ := isFile_iff.1 h
  exact isFile_iff.2 ⟨l, content, hj.locate hl hf, hj.get?_eq hf⟩

/-- A disk that lost some entries lost more than each one of them. -/
theorem Loses.of_erase (hj : d.Loses given d') (hne : d'.get? k ≠ d.get? k) : (d.erase k).Loses given d' := by
  have hk : k ≠ [] := by
    rintro rfl
    exact hne rfl
  refine ⟨hj.sound, hj.home, fun m => ?_⟩
  rw [get?_erase hk]
  split
  · next hm =>
    subst hm
    exact .inl ((hj.get? m).resolve_left hne).1
  · exact hj.get? m

/-- Something that a path to a file hangs on is lost, or it leads to a file as before. -/
theorem Loses.isFile_iff (hj : d.Loses given d') (hg : ∀ k, given k → d.get? k ≠ some .directory) :
    d'.isFile p = .ok true ↔
      d.isFile p = .ok true ∧ ∀ k, d'.get? k ≠ d.get? k → (d.erase k).isFile p = .ok true := by
  constructor
  · intro h
    exact ⟨hj.isFile h, fun k hne => (hj.of_erase hne).isFile h⟩
  · rintro ⟨h, hk⟩
    obtain ⟨hn, ht, l, content, h, hf⟩ := isFile_iff_leadsToFile.1 h
    have hs : d'.start p = d.start p := by simp [start, hj.home]
    refine isFile_iff_leadsToFile.2 ⟨hn, ht, l, content, ?_⟩
    rw [hs]
    exact h.of_loses_file hf hj hg fun k hne => (isFile_iff_leadsToFile.1 (hk k hne)).2.2

end EntityGen.Disk
