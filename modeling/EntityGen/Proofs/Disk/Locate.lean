import EntityGen.Proofs.Disk.Sound
import EntityGen.Proofs.Disk.Walk
import EntityGen.Proofs.Outcome

/-! Where paths lead on a sound disk. -/

namespace EntityGen.Disk

variable {d d' : Disk} {followLast : Bool} {n : Nat} {here l m : Place} {names rest : List String}
  {p : Path} {e : Entry}

/-- A way that follows its last link does not end at one. -/
theorem Sound.leads_not_link (h : d.Sound) (hl : Leads d true n here names l)
    (hh : ∀ t, d.get? here ≠ some (.link t)) : ∀ t, d.get? l ≠ some (.link t) := by
  generalize hb : true = followLast at hl
  induction hl with
  | here => exact hh
  | back hd _ ih => exact ih (fun t ht => by rw [h.get?_dropLast hd] at ht; cases ht)
  | enter hd hn hs he hnl _ ih => exact ih (fun t ht => hnl t (Option.some.inj (he.symm.trans ht)))
  | missing hd hn hs he => exact fun t ht => by rw [he] at ht; cases ht
  | stop _ _ _ _ hf => cases hb.trans hf
  | @follow here name t rest n l hd hn hs ht hr _ ih =>
    refine ih (fun u hu => ?_)
    unfold linkStart at hu
    split at hu
    · cases hu
    · rw [hd] at hu; cases hu

/-- Where a way ends at nothing, there is a directory for what it is called. -/
theorem Sound.leads_new (h : d.Sound) (hl : Leads d followLast n here names l)
    (hn : ∀ name ∈ names, name.contains '\x00' = false) (he : d.get? l = none) :
    ∃ m name, l = m ++ [name] ∧ d.get? m = some .directory ∧ IsEntryName name := by
  induction hl with
  | here hh => simp [he] at hh
  | back hd _ ih => exact ih (fun name hm => hn name (List.mem_cons_of_mem _ hm)) he
  | enter hd _ hs _ _ _ ih => exact ih (fun name hm => hn name (List.mem_cons_of_mem _ hm)) he
  | missing hd hne hs _ => exact ⟨_, _, rfl, hd, hne, hn _ List.mem_cons_self⟩
  | stop hd _ hs ht => rw [ht] at he; cases he
  | follow hd _ hs ht hr _ ih =>
    refine ih (fun name hm => ?_) he
    rcases List.mem_append.1 hm with hm | hm
    · have := h.targets _ _ ht
      exact Bool.eq_false_iff.2 fun hc => by simp [Path.hasNul] at this; simp [this _ hm] at hc
    · exact hn name (List.mem_cons_of_mem _ hm)

/-- The way along the names of an entry fails only at a name that is too long. -/
theorem Sound.walk_along (h : d.Sound) (he : d.get? (m ++ rest) = some e)
    (hf : followLast = true → ∀ t, e ≠ .link t) :
    d.walk followLast n m rest =
      if ∀ name ∈ rest, name.utf8ByteSize ≤ nameLimit then .ok (m ++ rest) else .error .nameTooLong := by
  induction rest generalizing m with
  | nil =>
    rw [List.append_nil] at he
    have hm : (d.get? m).isSome := by simp [he]
    simp [walk_nil hm]
  | cons name rest ih =>
    have hd : d.get? m = some .directory := h.get?_of_append (List.cons_ne_nil _ _) he
    have hn : name ≠ ".." := (h.isEntryName he (by simp)).1
    have he' : d.get? ((m ++ [name]) ++ rest) = some e := by simpa using he
    by_cases hs : name.utf8ByteSize ≤ nameLimit
    · have ih := ih he'
      rw [List.append_assoc, List.singleton_append] at ih
      simp only [List.forall_mem_cons, hs, true_and]
      rw [← ih]
      by_cases hr : rest = []
      · subst hr
        rw [List.append_nil] at he'
        cases e with
        | link t =>
          cases followLast with
          | true => exact absurd rfl (hf rfl t)
          | false => rw [walk_stop hd hn hs he', walk_nil (by simp [he'])]
        | directory => exact walk_enter hd hn hs he' nofun
        | file => exact walk_enter hd hn hs he' nofun
      · exact walk_enter hd hn hs (h.get?_of_append hr he') nofun
    · rw [walk_long hd hn (Nat.lt_of_not_le hs), if_neg]
      exact fun ha => hs (ha name List.mem_cons_self)

theorem locate_eq_ok_iff : d.locate followLast p = .ok l ↔
    p.hasNul = false ∧ p.text.utf8ByteSize ≤ pathLimit ∧ Leads d followLast linkLimit (d.start p) p.names l := by
  unfold locate
  split
  · next hp => simp [hp]
  · next hp =>
    split
    · next ht => simp [Nat.not_le.2 ht]
    · next ht =>
      rw [← walk_eq_ok_iff]
      cases hw : d.walk followLast linkLimit (d.start p) p.names with
      | error r => simp
      | ok l' => simpa [hp] using fun _ => Nat.le_of_not_lt ht

/-- A way fails for a character in a path only if the path has one. -/
theorem locate_ne_nul (h : p.hasNul = false) : d.locate followLast p ≠ .error .nul := by
  rw [locate, h]
  simp only [Bool.false_eq_true, if_false]
  split
  · nofun
  · cases d.walk followLast linkLimit (d.start p) p.names <;> nofun

/-- At the end of a way to a file stands something that can be removed, the file or a link to it. -/
theorem Leads.exists_removable {content : ByteArray} (hl : Leads d true n here names l)
    (hf : d.get? l = some (.file content)) :
    ∃ k e, Leads d false n here names k ∧ d.get? k = some e ∧ e ≠ .directory := by
  induction hl with
  | here hh => exact ⟨_, _, .here hh, hf, by simp⟩
  | back hd _ ih =>
    obtain ⟨k, e, hk, he⟩ := ih hf
    exact ⟨k, e, .back hd hk, he⟩
  | enter hd hn hs hm hnl _ ih =>
    obtain ⟨k, e, hk, he⟩ := ih hf
    exact ⟨k, e, .enter hd hn hs hm hnl hk, he⟩
  | missing _ _ _ hm =>
    rw [hm] at hf
    cases hf
  | stop _ _ _ _ hb => cases hb
  | @follow here name t rest n l hd hn hs ht hr _ ih =>
    by_cases hrest : rest = []
    · subst hrest
      exact ⟨_, _, .stop hd hn hs ht rfl, ht, by simp⟩
    · obtain ⟨k, e, hk, he⟩ := ih hf
      exact ⟨k, e, .follow hd hn hs ht (fun h => absurd h hrest) hk, he⟩

/-- The names and the text of a path that goes on below a directory are not too long. -/
def Fits (p : Path) (rest : List String) : Prop :=
  (p.below rest).text.utf8ByteSize ≤ pathLimit ∧ ∀ name ∈ rest, name.utf8ByteSize ≤ nameLimit

instance (p : Path) (rest : List String) : Decidable (Fits p rest) :=
  inferInstanceAs (Decidable (_ ∧ _))

/-- The way to an entry below a directory hangs on nothing but its length. -/
theorem Sound.locate_below (h : d.Sound) (followLast : Bool) (hm : d.locate true p = .ok m)
    (hd : d.get? m = some .directory) (hr : rest ≠ []) (he : d.get? (m ++ rest) = some e)
    (hf : followLast = true → ∀ t, e ≠ .link t) :
    d.locate followLast (p.below rest) =
      if Fits p rest then .ok (m ++ rest) else .error (.refusal .nameTooLong) := by
  obtain ⟨hn, _, hm⟩ := locate_eq_ok_iff.1 hm
  obtain ⟨k, hk⟩ := hm.walk_append hd hr
  have hnul : (p.below rest).hasNul = false := by
    simp only [Path.hasNul, List.any_eq_false, Path.below] at hn ⊢
    intro name hname
    rcases List.mem_append.1 hname with hname | hname
    · exact hn name hname
    · simpa using (h.isEntryName he (List.mem_append_right _ hname)).2
  have hw : d.walk followLast linkLimit (d.start (p.below rest)) (p.below rest).names =
      if ∀ name ∈ rest, name.utf8ByteSize ≤ nameLimit then .ok (m ++ rest) else .error .nameTooLong :=
    (hk followLast).trans (h.walk_along he hf)
  unfold locate
  rw [hnul, hw]
  by_cases ht : (p.below rest).text.utf8ByteSize ≤ pathLimit
  · rw [if_neg Bool.false_ne_true, if_neg (Nat.not_lt.2 ht)]
    by_cases hs : ∀ name ∈ rest, name.utf8ByteSize ≤ nameLimit
    · rw [if_pos hs, if_pos ⟨ht, hs⟩]; rfl
    · rw [if_neg hs, if_neg (fun hf => hs hf.2)]; rfl
  · rw [if_neg Bool.false_ne_true, if_pos (Nat.lt_of_not_le ht), if_neg (fun hf => ht hf.1)]

/-! Questions about what a path leads to. -/

theorem test_eq_ok_true_iff {q : Entry → Bool} : d.test q p = .ok true ↔
    ∃ l e, d.locate true p = .ok l ∧ d.get? l = some e ∧ q e = true := by
  unfold test entry
  cases hl : d.locate true p with
  | error t =>
    rcases t with ⟨_ | _⟩ | _ <;> simp [bind, Except.bind]
  | ok l =>
    cases he : d.get? l with
    | none => simp [bind, Except.bind, he]
    | some e => simp [bind, Except.bind, he]

theorem test_eq_error_iff {q : Entry → Bool} {r : Refusal} : d.test q p = .error r ↔
    r = .nameTooLong ∧ d.locate true p = .error (.refusal .nameTooLong) := by
  unfold test entry
  cases hl : d.locate true p with
  | error t =>
    rcases t with ⟨_ | _⟩ | _ <;> simp [bind, Except.bind, eq_comm]
  | ok l =>
    cases he : d.get? l with
    | none => simp [bind, Except.bind, he]
    | some e => simp [bind, Except.bind, he]

/-- A question has an answer unless the path is too long. -/
theorem exists_test_iff {q : Entry → Bool} :
    (∃ b, d.test q p = .ok b) ↔ d.locate true p ≠ .error (.refusal .nameTooLong) := by
  constructor
  · rintro ⟨b, hb⟩ hlong
    cases hb.symm.trans (test_eq_error_iff.2 ⟨rfl, hlong⟩)
  · intro hlong
    cases ht : d.test q p with
    | ok b => exact ⟨b, rfl⟩
    | error r => exact absurd (test_eq_error_iff.1 ht).2 hlong

/-- Whether a question has an answer hangs on the path alone. -/
theorem exists_test_congr {q q' : Entry → Bool} (h : ∃ b, d.test q p = .ok b) : ∃ b, d.test q' p = .ok b :=
  exists_test_iff.2 (exists_test_iff.1 h)

theorem isFile_iff : d.isFile p = .ok true ↔
    ∃ l content, d.locate true p = .ok l ∧ d.get? l = some (.file content) := by
  rw [isFile, test_eq_ok_true_iff]
  constructor
  · rintro ⟨l, e, hl, he, hq⟩
    cases e with
    | file content => exact ⟨l, content, hl, he⟩
    | directory | link => cases hq
  · rintro ⟨l, content, hl, he⟩
    exact ⟨l, _, hl, he, rfl⟩

theorem exists_removable_of_isFile (h : d.isFile p = .ok true) :
    ∃ k e, d.locate false p = .ok k ∧ d.get? k = some e ∧ e ≠ .directory := by
  obtain ⟨l, content, hl, hf⟩ := isFile_iff.1 h
  obtain ⟨hn, ht, hl⟩ := locate_eq_ok_iff.1 hl
  obtain ⟨k, e, hk, he⟩ := hl.exists_removable hf
  exact ⟨k, e, locate_eq_ok_iff.2 ⟨hn, ht, hk⟩, he⟩

theorem isDirectory_iff : d.isDirectory p = .ok true ↔
    ∃ l, d.locate true p = .ok l ∧ d.get? l = some .directory := by
  rw [isDirectory, test_eq_ok_true_iff]
  constructor
  · rintro ⟨l, e, hl, he, hq⟩
    cases e with
    | directory => exact ⟨l, hl, he⟩
    | file | link => cases hq
  · rintro ⟨l, hl, he⟩
    exact ⟨l, _, hl, he, rfl⟩

theorem mem_placesBelow_iff : l ∈ d.placesBelow m ↔
    l ∈ d.entries.map (·.1) ∧ ∃ rest, rest ≠ [] ∧ l = m ++ rest := by
  simp only [placesBelow, List.mem_filter, Bool.and_eq_true, List.isPrefixOf_iff_prefix, decide_eq_true_eq]
  refine and_congr_right fun _ => ⟨?_, ?_⟩
  · rintro ⟨⟨rest, rfl⟩, hne⟩
    exact ⟨rest, by simpa using hne, rfl⟩
  · rintro ⟨rest, hr, rfl⟩
    exact ⟨List.prefix_append m rest, by simpa using hr⟩

theorem pathsOf_eq_ok_iff {pathOf : Place → Path} {ls : List Place} {ps : List Path} :
    d.pathsOf pathOf ls = .ok ps ↔ ps = ls.map pathOf ∧
      ∀ l ∈ ls, d.get? l = some .directory → ∃ b, d.isDirectory (pathOf l) = .ok b := by
  rw [pathsOf, bind_eq_ok_iff]
  constructor
  · rintro ⟨bs, hbs, hps⟩
    refine ⟨(Except.ok.inj hps).symm, fun l hl hdir => ?_⟩
    obtain ⟨b, -, hb⟩ := (exists_of_forall₂ (mapM_eq_ok_iff.1 hbs)).1 l (by simp [hl, hdir])
    exact ⟨b, hb⟩
  · rintro ⟨rfl, hall⟩
    have hdirs : ∀ l ∈ ls.filter (d.get? · = some .directory), ∃ b, d.isDirectory (pathOf l) = .ok b := by
      intro l hl
      obtain ⟨hl, hdir⟩ := List.mem_filter.1 hl
      exact hall l hl (of_decide_eq_true hdir)
    obtain ⟨bs, hbs⟩ := exists_mapM hdirs
    exact ⟨bs, hbs, rfl⟩

/-- The only trouble with looking into a directory is a path that is too long. -/
theorem eq_of_pathsOf_eq_error {pathOf : Place → Path} {ls : List Place} {r : Refusal}
    (h : d.pathsOf pathOf ls = .error r) : r = .nameTooLong := by
  unfold pathsOf at h
  cases hbs : (ls.filter (d.get? · = some .directory)).mapM (fun l => d.isDirectory (pathOf l)) with
  | error r' =>
    rw [hbs] at h
    cases h
    obtain ⟨l, -, hl⟩ := mapM_eq_error hbs
    exact (test_eq_error_iff.1 hl).1
  | ok bs =>
    rw [hbs] at h
    cases h

theorem mem_pathsBelow {ps : List Path} (h : d.pathsBelow p = .ok ps) {q : Path} (hq : q ∈ ps) :
    ∃ m rest e, d.locate true p = .ok m ∧ d.get? m = some .directory ∧ rest ≠ [] ∧
      d.get? (m ++ rest) = some e ∧ q = p.below rest := by
  unfold pathsBelow at h
  cases hd : d.isDirectory p with
  | error r => rw [hd] at h; cases h
  | ok b =>
    cases b with
    | false =>
      rw [hd] at h
      cases h
      cases hq
    | true =>
      obtain ⟨m, hm, hmd⟩ := isDirectory_iff.1 hd
      rw [hd, hm] at h
      obtain ⟨rfl, -⟩ := pathsOf_eq_ok_iff.1 h
      obtain ⟨l, hl, rfl⟩ := List.mem_map.1 hq
      obtain ⟨hmem, rest, hr, rfl⟩ := mem_placesBelow_iff.1 (List.mem_mergeSort.1 hl)
      obtain ⟨e, he⟩ := Option.isSome_iff_exists.1 (get?_of_mem hmem)
      exact ⟨m, rest, e, hm, hmd, hr, he, by rw [List.drop_left]⟩

end EntityGen.Disk
