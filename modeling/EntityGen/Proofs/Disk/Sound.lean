import EntityGen.Disk.Basic

/-! Sound disks, and the changes that keep a disk sound. -/

namespace EntityGen.Disk

theorem find?_isSome_iff {l : Place} {es : List (Place × Entry)} :
    (find? l es).isSome ↔ l ∈ es.map (·.1) := by
  induction es with
  | nil => simp [find?]
  | cons f es ih =>
    by_cases h : f.1 = l
    · simp [find?, h]
    · simp [find?, h, ih, Ne.symm h]

theorem map_insert (l : Place) (e : Entry) (es : List (Place × Entry)) :
    (insert l e es).map (·.1) = if l ∈ es.map (·.1) then es.map (·.1) else es.map (·.1) ++ [l] := by
  induction es with
  | nil => simp [insert]
  | cons f es ih =>
    by_cases h : f.1 = l
    · simp [insert, h]
    · simp only [insert, h, if_false, List.map_cons, ih, List.mem_cons, Ne.symm h, false_or]
      split <;> rfl

theorem mem_of_find? {l : Place} {e : Entry} {es : List (Place × Entry)} (h : find? l es = some e) :
    (l, e) ∈ es := by
  induction es with
  | nil => cases h
  | cons f es ih =>
    unfold find? at h
    split at h
    · next hf => cases h; cases hf; exact List.mem_cons_self
    · exact List.mem_cons_of_mem _ (ih h)

theorem get?_of_mem {d : Disk} {l : Place} (h : l ∈ d.entries.map (·.1)) : (d.get? l).isSome := by
  unfold get?
  split
  · rfl
  · exact find?_isSome_iff.2 h

theorem mem_of_get? {d : Disk} {l : Place} {e : Entry} (hl : l ≠ []) (h : d.get? l = some e) :
    l ∈ d.entries.map (·.1) := by
  rw [get?, if_neg hl] at h
  exact find?_isSome_iff.1 (by simp [h])

theorem not_mem_of_get? {d : Disk} {l : Place} (h : d.get? l = none) : l ∉ d.entries.map (·.1) := by
  intro hm
  have := get?_of_mem hm
  simp [h] at this

theorem hasChildren_iff {d : Disk} {l : Place} :
    d.hasChildren l = true ↔ ∃ name, (d.get? (l ++ [name])).isSome := by
  simp only [hasChildren, List.any_eq_true, Bool.and_eq_true, decide_eq_true_eq]
  constructor
  · rintro ⟨e, he, hne, rfl⟩
    refine ⟨e.1.getLast hne, ?_⟩
    rw [List.dropLast_concat_getLast]
    exact get?_of_mem (List.mem_map_of_mem he)
  · rintro ⟨name, hs⟩
    obtain ⟨e, he⟩ := Option.isSome_iff_exists.1 hs
    obtain ⟨f, hf, hl⟩ := List.mem_map.1 (mem_of_get? (by simp) he)
    exact ⟨f, hf, by simp [hl], by simp [hl]⟩

/-- The content of the file at a place. -/
def file? (d : Disk) (l : Place) : Option ByteArray :=
  match d.get? l with
  | some (.file content) => some content
  | _ => none

theorem file?_eq_some_iff {d : Disk} {l : Place} {content : ByteArray} :
    d.file? l = some content ↔ d.get? l = some (.file content) := by
  unfold file?
  split
  · next h => simp [h]
  · next h => simpa using fun hc => h content hc

/-- The disk without what stands at some places. -/
def without (d : Disk) (gone : Place → Bool) : Disk :=
  { d with entries := d.entries.filter fun e => !gone e.1 }

@[simp] theorem home_without (d : Disk) (gone : Place → Bool) : (d.without gone).home = d.home := rfl

theorem erase_eq_without (d : Disk) (l : Place) : d.erase l = d.without fun m => decide (m = l) := rfl

section Without

variable {d : Disk} {gone : Place → Bool} {l : Place}

theorem find?_filter_not (gone : Place → Bool) (l : Place) (es : List (Place × Entry)) :
    find? l (es.filter fun e => !gone e.1) = if gone l then none else find? l es := by
  induction es with
  | nil => simp [find?]
  | cons f es ih =>
    by_cases hf : f.1 = l
    · cases hg : gone l <;> simp [find?, hf, hg, ih]
    · cases hg : gone f.1 <;> simp [hg, find?, hf, ih]

theorem get?_without_of_not (h : gone l = false) : (d.without gone).get? l = d.get? l := by
  simp [get?, without, find?_filter_not, h]

theorem get?_without_of (hl : l ≠ []) (h : gone l = true) : (d.without gone).get? l = none := by
  simp [get?, without, find?_filter_not, hl, h]

theorem get?_of_without {e : Entry} (h : (d.without gone).get? l = some e) : d.get? l = some e := by
  by_cases hl : l = []
  · rw [hl] at h ⊢
    exact h
  · cases hg : gone l with
    | false => rwa [get?_without_of_not hg] at h
    | true => rw [get?_without_of hl hg] at h; cases h

end Without

/-- What no entry is called, because it leads back or nowhere. -/
def IsEntryName (name : String) : Prop := name ≠ ".." ∧ name.contains '\x00' = false

theorem sound_of_entries {d : Disk} (distinct : (d.entries.map (·.1)).Nodup)
    (parent : ∀ e ∈ d.entries, e.1 ≠ [] ∧ d.get? e.1.dropLast = some .directory)
    (names : ∀ e ∈ d.entries, ∀ name ∈ e.1, IsEntryName name)
    (targets : ∀ e ∈ d.entries, ∀ t, e.2 = .link t → t.hasNul = false)
    (home : d.get? d.home = some .directory) : d.Sound where
  distinct := distinct
  root_notMem := by
    intro hm
    obtain ⟨e, he, hr⟩ := List.mem_map.1 hm
    exact (parent e he).1 hr
  parent := by
    intro l hl
    obtain ⟨e, he, rfl⟩ := List.mem_map.1 hl
    exact (parent e he).2
  names := by
    intro l hl
    obtain ⟨e, he, rfl⟩ := List.mem_map.1 hl
    exact names e he
  targets := by
    intro l t h
    unfold get? at h
    split at h
    · cases h
    · exact targets _ (mem_of_find? h) t rfl
  home := by
    intro t ht
    rw [home] at ht
    cases ht

theorem linkFree_of_entries {d : Disk} (h : ∀ e ∈ d.entries, ∀ t, e.2 ≠ .link t) : d.LinkFree := by
  intro l t hl
  unfold get? at hl
  split at hl
  · cases hl
  · exact h _ (mem_of_find? hl) t rfl

theorem fresh_sound : (fresh ["w"]).Sound := by
  apply sound_of_entries
  · decide
  · decide
  · simp [fresh, IsEntryName]
  · simp [fresh]
  · rfl

theorem fresh_linkFree : (fresh ["w"]).LinkFree := linkFree_of_entries (by simp [fresh])

namespace Sound

variable {d : Disk} {l m : Place} {e : Entry} {name : String}

theorem get?_dropLast (h : d.Sound) (he : d.get? l = some e) : d.get? l.dropLast = some .directory := by
  by_cases hl : l = []
  · subst hl; rfl
  · exact h.parent l (mem_of_get? hl he)

theorem isEntryName (h : d.Sound) (he : d.get? l = some e) (hn : name ∈ l) : IsEntryName name :=
  h.names l (mem_of_get? (List.ne_nil_of_mem hn) he) name hn

/-- Every place above an entry is a directory. -/
theorem get?_of_append (h : d.Sound) {rest : List String} (hr : rest ≠ [])
    (he : d.get? (l ++ rest) = some e) : d.get? l = some .directory := by
  induction rest generalizing l with
  | nil => exact absurd rfl hr
  | cons name rest ih =>
    by_cases hr' : rest = []
    · subst hr'
      simpa using h.get?_dropLast he
    · have hd : d.get? (l ++ [name]) = some .directory := ih hr' (by simpa using he)
      simpa using h.get?_dropLast hd

theorem get?_child (h : d.Sound) (hl : d.get? l ≠ some .directory) (name : String) :
    d.get? (l ++ [name]) = none := by
  cases he : d.get? (l ++ [name]) with
  | none => rfl
  | some e =>
    have hd := h.get?_dropLast he
    rw [List.dropLast_concat] at hd
    exact absurd hd hl

/-- A directory or a file may be put where nothing was. -/
theorem put_new (h : d.Sound) (hd : d.get? l = some .directory) (hn : IsEntryName name)
    (hf : d.get? (l ++ [name]) = none) (hl : ∀ t, e ≠ .link t) : (d.put (l ++ [name]) e).Sound := by
  have hne : l ++ [name] ≠ [] := by simp
  have hmap : (d.put (l ++ [name]) e).entries.map (·.1) = d.entries.map (·.1) ++ [l ++ [name]] := by
    rw [put, map_insert, if_neg (not_mem_of_get? hf)]
  have hdir : ∀ m, d.get? m = some .directory → (d.put (l ++ [name]) e).get? m = some .directory := by
    intro m hm
    rw [get?_put_of_ne e (fun hml => by rw [hml, hf] at hm; cases hm), hm]
  constructor
  case distinct =>
    rw [hmap, List.nodup_append]
    refine ⟨h.distinct, by simp, fun m hm m' hm' => ?_⟩
    rintro rfl
    exact not_mem_of_get? hf (List.mem_singleton.1 hm' ▸ hm)
  case root_notMem =>
    rw [hmap]
    simpa using h.root_notMem
  case parent =>
    intro m hm
    rw [hmap, List.mem_append, List.mem_singleton] at hm
    rcases hm with hm | rfl
    · exact hdir _ (h.parent m hm)
    · exact hdir _ (by rw [List.dropLast_concat, hd])
  case names =>
    intro m hm name' hn'
    rw [hmap, List.mem_append, List.mem_singleton] at hm
    rcases hm with hm | rfl
    · exact h.names m hm name' hn'
    · rcases List.mem_append.1 hn' with hn' | hn'
      · exact h.isEntryName hd hn'
      · exact List.mem_singleton.1 hn' ▸ hn
  case targets =>
    intro m t hm
    by_cases hml : m = l ++ [name]
    · rw [hml, get?_put_self e hne] at hm
      exact absurd (Option.some.inj hm) (hl t)
    · exact h.targets m t (by rwa [get?_put_of_ne e hml] at hm)
  case home =>
    intro t ht
    rw [home_put] at ht
    by_cases hml : d.home = l ++ [name]
    · rw [hml, get?_put_self e hne] at ht
      exact hl t (Option.some.inj ht)
    · exact h.home t (by rwa [get?_put_of_ne e hml] at ht)

/-- A file may be put in the place of another one. -/
theorem put_file (h : d.Sound) {c c' : ByteArray} (hf : d.get? l = some (.file c)) :
    (d.put l (.file c')).Sound := by
  have hne : l ≠ [] := by rintro rfl; cases hf
  have hmap : (d.put l (.file c')).entries.map (·.1) = d.entries.map (·.1) := by
    rw [put, map_insert, if_pos (mem_of_get? hne hf)]
  have hget : ∀ m e, d.get? m = some e → (∀ c, e ≠ .file c) → (d.put l (.file c')).get? m = some e := by
    intro m e hm he
    rw [get?_put_of_ne _ (fun hml => ?_), hm]
    rw [hml, hf] at hm
    exact he c (Option.some.inj hm).symm
  have hlink : ∀ m t, (d.put l (.file c')).get? m = some (.link t) → d.get? m = some (.link t) := by
    intro m t hm
    by_cases hml : m = l
    · rw [hml, get?_put_self _ hne] at hm; cases hm
    · rwa [get?_put_of_ne _ hml] at hm
  constructor
  case distinct => rw [hmap]; exact h.distinct
  case root_notMem => rw [hmap]; exact h.root_notMem
  case parent =>
    intro m hm
    rw [hmap] at hm
    exact hget _ _ (h.parent m hm) (fun c hc => by cases hc)
  case names => rw [hmap]; exact h.names
  case targets => exact fun m t hm => h.targets m t (hlink m t hm)
  case home => exact fun t ht => h.home t (hlink _ t ht)

theorem erase_root (h : d.Sound) : d.erase [] = d := by
  have : d.entries.filter (fun e => !decide (e.1 = [])) = d.entries := by
    refine List.filter_eq_self.2 fun e he => ?_
    have hn : e.1 ≠ [] := fun hn => h.root_notMem (hn ▸ List.mem_map_of_mem he)
    simpa using hn
  rw [Disk.erase, this]

/-- What is taken away together with all that is below it leaves a sound disk. -/
theorem without {gone : Place → Bool} (h : d.Sound)
    (hg : ∀ l name, gone l = true → (d.get? (l ++ [name])).isSome → gone (l ++ [name]) = true) :
    (d.without gone).Sound := by
  have hmap : (d.without gone).entries.map (·.1) = (d.entries.map (·.1)).filter fun m => !gone m := by
    simp [Disk.without, List.filter_map, Function.comp_def]
  constructor
  case distinct => rw [hmap]; exact h.distinct.filter _
  case root_notMem =>
    rw [hmap]
    exact fun hm => h.root_notMem (List.mem_filter.1 hm).1
  case parent =>
    intro m hm
    rw [hmap, List.mem_filter] at hm
    have hne : m ≠ [] := fun hn => h.root_notMem (hn ▸ hm.1)
    rw [get?_without_of_not, h.parent m hm.1]
    cases hp : gone m.dropLast with
    | false => rfl
    | true =>
      have := hg m.dropLast (m.getLast hne) hp
      rw [List.dropLast_concat_getLast hne] at this
      simp [this (get?_of_mem hm.1)] at hm
  case names =>
    intro m hm
    rw [hmap, List.mem_filter] at hm
    exact h.names m hm.1
  case targets => exact fun m t hm => h.targets m t (get?_of_without hm)
  case home => exact fun t ht => h.home t (get?_of_without ht)

/-- What has nothing below it may be taken away. -/
theorem erase (h : d.Sound) (hc : ∀ name, d.get? (l ++ [name]) = none) : (d.erase l).Sound := by
  rw [erase_eq_without]
  apply h.without
  intro m name hm hs
  rw [decide_eq_true_eq] at hm
  subst hm
  rw [hc name] at hs
  cases hs

end Sound
end EntityGen.Disk
