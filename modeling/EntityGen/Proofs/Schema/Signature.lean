import EntityGen.Schema.Signature
import EntityGen.Proofs.Outcome
import EntityGen.Proofs.Text.Cutting

/-! What the parameters of a function look like, whatever text they are read from. -/

namespace EntityGen

open Text

/-- A text that parameter lists leave whole: nothing is trimmed off it, and no mark in it cuts it. -/
@[mk_iff]
structure IsWhole (s : List Char) : Prop where
  trimmed : Trimmed s
  noComma : ',' ∉ s
  noColon : ':' ∉ s

/-- A parameter with a name whose type, if there is one, comes without a default value. -/
@[mk_iff]
structure Parameter.IsNamed (p : Parameter) : Prop where
  name_ne : p.name ≠ ""
  name : IsWhole p.name.toList
  type : IsWhole p.type.toList
  noDefault : '=' ∉ p.type.toList

/-- A parameter with a name and a type. -/
@[mk_iff]
structure Parameter.IsProper (p : Parameter) : Prop extends p.IsNamed where
  type_ne : p.type ≠ ""

instance (s : List Char) : Decidable (IsWhole s) := decidable_of_iff' _ (isWhole_iff s)

instance (p : Parameter) : Decidable p.IsNamed := decidable_of_iff' _ p.isNamed_iff

instance (p : Parameter) : Decidable p.IsProper := decidable_of_iff' _ p.isProper_iff

namespace Signature

variable {raw item name type s t before after : List Char} {p : Parameter} {ps : List Parameter}
  {function text : String} {database : Option String}

/-! ## Types -/

theorem isBlank_equals : isBlank '=' = false := rfl

/-- A default value is cut off even where there are blanks in front of it. -/
theorem typeOf_append_equals (hs : '=' ∉ s) : typeOf (s ++ '=' :: t) = trim s := by
  have hblank : '=' ∉ s.dropWhile isBlank := fun h => hs ((List.dropWhile_sublist isBlank).mem h)
  have hall : ∀ c ∈ s.dropWhile isBlank, decide (c ≠ '=') = true := fun c hc =>
    decide_eq_true fun h => hblank (h ▸ hc)
  have hstart : s.takeWhile isBlank ++ s.dropWhile isBlank = s := List.takeWhile_append_dropWhile
  rw [typeOf, trim_append_cons isBlank_equals, List.takeWhile_append_of_pos hall, List.takeWhile_cons_of_neg (by simp),
    List.append_nil, ← trim_append_of_blank (a := s.takeWhile isBlank) List.all_takeWhile, hstart]

theorem typeOf_of_notMem (hs : '=' ∉ s) : typeOf s = trim s := by
  have hall : ∀ c ∈ trim s, decide (c ≠ '=') = true := fun c hc =>
    decide_eq_true fun h => hs (mem_of_mem_trim (h ▸ hc))
  rw [typeOf, List.takeWhile_eq_self_iff.2 hall, (trimmed_trim s).trim_eq]

theorem typeOf_eq (s : List Char) : typeOf s = trim (s.takeWhile (· ≠ '=')) := by
  by_cases hs : '=' ∈ s
  · obtain ⟨a, b, rfl, ha⟩ := List.eq_append_cons_of_mem hs
    have hall : ∀ c ∈ a, decide (c ≠ '=') = true := fun c hc => decide_eq_true fun h => ha (h ▸ hc)
    rw [typeOf_append_equals ha, List.takeWhile_append_of_pos hall, List.takeWhile_cons_of_neg (by simp),
      List.append_nil]
  · have hall : ∀ c ∈ s, decide (c ≠ '=') = true := fun c hc => decide_eq_true fun h => hs (h ▸ hc)
    rw [typeOf_of_notMem hs, List.takeWhile_eq_self_iff.2 hall]

theorem mem_of_mem_typeOf {c : Char} (h : c ∈ typeOf s) : c ∈ s ∧ c ≠ '=' := by
  rw [typeOf_eq] at h
  have hc := mem_of_mem_trim h
  have hne := List.mem_takeWhile_imp hc
  exact ⟨(List.takeWhile_sublist _).mem hc, of_decide_eq_true hne⟩

/-! ## Items -/

theorem splitOn_eq_pair_iff {mark : Char} :
    s.splitOn mark = [name, type] ↔ s = name ++ mark :: type ∧ mark ∉ name ∧ mark ∉ type := by
  constructor
  · intro h
    refine ⟨?_, notMem_of_mem_splitOn (s := s) (by simp [h]), notMem_of_mem_splitOn (s := s) (by simp [h])⟩
    calc s = [mark].intercalate (s.splitOn mark) := (List.intercalate_splitOn mark).symm
      _ = name ++ mark :: type := by simp [h, List.intercalate_cons_cons]
  · rintro ⟨rfl, hname, htype⟩
    rw [List.splitOn_append_cons_self_of_not_mem hname, List.splitOn_eq_singleton htype]

theorem parameter?_eq_some_iff : parameter? item = some p ↔
    ∃ name type, item = name ++ ':' :: type ∧ ':' ∉ name ∧ ':' ∉ type ∧ name.all isBlank = false ∧
      type.all isBlank = false ∧ p = ⟨String.ofList (trim name), String.ofList (typeOf type)⟩ := by
  unfold parameter?
  constructor
  · intro h
    split at h
    · next name type hsplit =>
      obtain ⟨hitem, hname, htype⟩ := splitOn_eq_pair_iff.1 hsplit
      split at h
      · cases h
      · next hblank =>
        cases h
        rw [Bool.or_eq_true, not_or, Bool.not_eq_true, Bool.not_eq_true] at hblank
        exact ⟨name, type, hitem, hname, htype, hblank.1, hblank.2, rfl⟩
    · cases h
  · rintro ⟨name, type, hitem, hname, htype, hblank, hblank', rfl⟩
    rw [splitOn_eq_pair_iff.2 ⟨hitem, hname, htype⟩]
    simp [hblank, hblank']

theorem parse?_eq_some_iff :
    parse? text = some ps ↔ List.Forall₂ (fun item p => parameter? item = some p) (items text.toList) ps :=
  mapM_eq_some_iff

theorem parse_eq_ok_iff : parse function text database = .ok ps ↔ parse? text = some ps := by
  unfold parse
  cases parse? text <;> simp

theorem comma_notMem_of_mem_items (h : item ∈ items raw) : ',' ∉ item :=
  notMem_of_mem_splitOn (List.mem_filter.1 h).1

/-- Nothing but blanks stands between a colon and an equals sign, where the type should be. -/
def LacksType (item : List Char) : Prop :=
  ∃ name blanks value, blanks.all isBlank ∧ item = name ++ ':' :: (blanks ++ '=' :: value)

/-- The type that is read from the right side of a colon is missing exactly if that side begins, after its
blanks, with an equals sign. -/
theorem typeOf_eq_nil_iff (htype : type.all isBlank = false) :
    typeOf type = [] ↔ ∃ blanks value, blanks.all isBlank ∧ type = blanks ++ '=' :: value := by
  constructor
  · intro h
    have hmem : '=' ∈ type := by
      by_contra hnot
      rw [typeOf_of_notMem hnot, trim_eq_nil_iff, htype] at h
      cases h
    obtain ⟨a, b, rfl, ha⟩ := List.eq_append_cons_of_mem hmem
    rw [typeOf_append_equals ha, trim_eq_nil_iff] at h
    exact ⟨a, b, h, rfl⟩
  · rintro ⟨blanks, value, hblanks, rfl⟩
    have hnot : '=' ∉ blanks := by
      intro h
      have hblank := List.all_eq_true.1 hblanks _ h
      rw [isBlank_equals] at hblank
      cases hblank
    rw [typeOf_append_equals hnot, trim_eq_nil_iff]
    exact hblanks

theorem lacksType_iff (hname : ':' ∉ name) (htype : ':' ∉ type) :
    LacksType (name ++ ':' :: type) ↔ ∃ blanks value, blanks.all isBlank ∧ type = blanks ++ '=' :: value := by
  constructor
  · rintro ⟨name', blanks, value, hblanks, h⟩
    have hsplit : (name ++ ':' :: type).splitOn ':' = [name, type] := splitOn_eq_pair_iff.2 ⟨rfl, hname, htype⟩
    -- there is only one colon, so the other one that the item is cut at is the same
    have hcount : (name ++ ':' :: type).count ':' = 1 := by
      simp [List.count_append, List.count_eq_zero.2 hname, List.count_eq_zero.2 htype]
    rw [h] at hcount hsplit
    simp only [List.count_append, List.count_cons_self] at hcount
    have hzero : name'.count ':' = 0 ∧ (blanks ++ '=' :: value).count ':' = 0 := by
      rw [List.count_append]
      omega
    rw [splitOn_eq_pair_iff.2 ⟨rfl, List.count_eq_zero.1 hzero.1, List.count_eq_zero.1 hzero.2⟩] at hsplit
    cases hsplit
    exact ⟨blanks, value, hblanks, rfl⟩
  · rintro ⟨blanks, value, hblanks, rfl⟩
    exact ⟨name, blanks, value, hblanks, rfl⟩

theorem ofList_eq_empty_iff : String.ofList s = "" ↔ s = [] := by
  rw [← String.toList_inj, String.toList_ofList]
  rfl

/-- A parameter that is read from an item has a name, and it lacks a type exactly if the item does. -/
theorem isNamed_of_parameter? (hcomma : ',' ∉ item) (h : parameter? item = some p) :
    p.IsNamed ∧ (p.type = "" ↔ LacksType item) := by
  obtain ⟨name, type, rfl, hname, htype, hblank, hblank', rfl⟩ := parameter?_eq_some_iff.1 h
  rw [List.mem_append, List.mem_cons, not_or, not_or] at hcomma
  refine ⟨{ name_ne := ?_, name := ?_, type := ?_, noDefault := ?_ }, ?_⟩
  · rw [ne_eq, ofList_eq_empty_iff, trim_eq_nil_iff, hblank]
    exact Bool.false_ne_true
  · rw [String.toList_ofList]
    exact ⟨trimmed_trim name, fun h => hcomma.1 (mem_of_mem_trim h), fun h => hname (mem_of_mem_trim h)⟩
  · rw [String.toList_ofList]
    exact ⟨trimmed_trim _, fun h => hcomma.2.2 (mem_of_mem_typeOf h).1, fun h => htype (mem_of_mem_typeOf h).1⟩
  · rw [String.toList_ofList]
    exact fun h => (mem_of_mem_typeOf h).2 rfl
  · rw [ofList_eq_empty_iff, typeOf_eq_nil_iff hblank', lacksType_iff hname htype]

theorem isProper_of_parameter?_iff (hcomma : ',' ∉ item) (h : parameter? item = some p) :
    p.IsProper ↔ ¬LacksType item := by
  obtain ⟨hnamed, htype⟩ := isNamed_of_parameter? hcomma h
  rw [← htype]
  exact ⟨fun h => h.type_ne, fun h => { hnamed with type_ne := h }⟩

/-- Whatever text is accepted, each parameter has a name, trimmed and without the marks that cut a list, and
so is its type, which has no default value in it. There is a type unless the item that the parameter is
read from has an equals sign in its place. -/
theorem parse_isNamed (h : parse function text database = .ok ps) :
    (∀ p ∈ ps, p.IsNamed) ∧
      List.Forall₂ (fun item p => p.IsProper ↔ ¬LacksType item) (items text.toList) ps := by
  rw [parse_eq_ok_iff, parse?_eq_some_iff] at h
  have hcomma : ∀ item ∈ items text.toList, ',' ∉ item := fun _ => comma_notMem_of_mem_items
  generalize items text.toList = is at h hcomma ⊢
  induction h with
  | nil => exact ⟨List.forall_mem_nil _, .nil⟩
  | cons hp _ ih =>
    obtain ⟨hitem, hitems⟩ := List.forall_mem_cons.1 hcomma
    obtain ⟨hnamed, hall⟩ := ih hitems
    refine ⟨List.forall_mem_cons.2 ⟨(isNamed_of_parameter? hitem hp).1, hnamed⟩, ?_⟩
    exact .cons (isProper_of_parameter?_iff hitem hp) hall

theorem parse_isNamed_untyped :
    let ps : List Parameter := [⟨"a", "int"⟩, ⟨"b", ""⟩, ⟨"c=1", "string"⟩]
    parse "F" " (a : int, , b:= 5, c=1 :string='x') " none = .ok ps ∧ (∀ p ∈ ps, p.IsNamed) ∧
      List.Forall₂ (fun item p => p.IsProper ↔ ¬LacksType item)
        ["a : int".toList, " b:= 5".toList, " c=1 :string='x'".toList] ps := by
  have h : parse "F" " (a : int, , b:= 5, c=1 :string='x') " none =
      .ok [⟨"a", "int"⟩, ⟨"b", ""⟩, ⟨"c=1", "string"⟩] := by decide +kernel
  exact ⟨h, parse_isNamed h⟩

end Signature
end EntityGen
