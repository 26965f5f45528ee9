import EntityGen.Schema.Scalar
import EntityGen.Proofs.Schema.Writing

/-! Which default values leave the parameters of a function as they are. -/

namespace EntityGen

open Text

/-- The characters of numbers, and of words such as `true`. -/
def isNumberChar (c : Char) : Bool := c.isAlphanum || c = '+' || c = '-' || c = '.'

inductive QuotationMark
  | single
  | double

def QuotationMark.char : QuotationMark → Char
  | .single => '\''
  | .double => '"'

/-- A literal of the query language. -/
inductive Literal
  | number (digits : List Char) (h : digits.all isNumberChar)
  | quoted (mark : QuotationMark) (inside : List Char)
  /-- A literal with its kind in front, such as `datetime(2020-01-01 10:00)` and `dynamic([1, 2])`. -/
  | typed (kind : Scalar) (inside : List Char)

def Literal.text : Literal → List Char
  | .number digits _ => digits
  | .quoted mark inside => mark.char :: (inside ++ [mark.char])
  | .typed kind inside => kind.name.toList ++ '(' :: (inside ++ [')'])

/-- A parameter and its default value, if it has one. -/
structure Declaration where
  parameter : Parameter
  default : Option Literal := none

namespace Declaration

def text (d : Declaration) : List Char :=
  d.parameter.name.toList ++ ':' :: (d.parameter.type.toList ++ d.default.elim [] fun l => '=' :: l.text)

def withoutDefault (d : Declaration) : Declaration := { d with default := none }

/-- No mark that cuts a list of parameters stands in the default value. -/
def IsUncut (d : Declaration) : Prop := ∀ l ∈ d.default, ',' ∉ l.text ∧ ':' ∉ l.text

end Declaration

/-- The parameter list of a function as it is declared. -/
def declared (ds : List Declaration) : String :=
  String.ofList ('(' :: ([',', ' '].intercalate (ds.map (·.text)) ++ [')']))

namespace Literal

variable {l : Literal}

/-- Something that is neither a blank nor a comma comes after each comma in a literal. -/
theorem exists_end (h : ',' ∈ l.text) :
    ∃ u v e, l.text = u ++ ',' :: (v ++ [e]) ∧ isBlank e = false ∧ e ≠ ',' := by
  -- a literal with a comma in it ends with a mark of its own
  have hend : ∃ s e, l.text = s ++ [e] ∧ isBlank e = false ∧ e ≠ ',' := by
    cases l with
    | number digits hd =>
      have hcomma := List.all_eq_true.1 hd _ h
      cases hcomma
    | quoted mark inside => exact ⟨mark.char :: inside, mark.char, rfl, by cases mark <;> decide⟩
    | typed kind inside => exact ⟨kind.name.toList ++ '(' :: inside, ')', by simp [text], by decide⟩
  obtain ⟨s, e, hs, hblank, hne⟩ := hend
  rw [hs, List.mem_append, List.mem_singleton] at h
  obtain ⟨u, v, rfl⟩ := List.append_of_mem (h.resolve_right (Ne.symm hne))
  exact ⟨u, v, e, by rw [hs, List.append_assoc, List.cons_append], hblank, hne⟩

end Literal

namespace Signature

variable {d : Declaration} {ds : List Declaration} {s : List Char} {ss : List (List Char)} {text : String}
  {ps : List Parameter}

/-- The items of a list with a space in front of each but the first. -/
def spaced : List (List Char) → List (List Char)
  | [] => []
  | s :: ss => s :: ss.map (' ' :: ·)

theorem intercalate_spaced (ss : List (List Char)) : [','].intercalate (spaced ss) = [',', ' '].intercalate ss := by
  induction ss with
  | nil => rfl
  | cons s ss ih =>
    cases ss with
    | nil => rfl
    | cons next ss =>
      rw [List.intercalate_cons_cons, ← ih, spaced, spaced, List.map_cons]
      cases ss <;> simp [List.intercalate_cons_cons]

theorem toList_declared (ds : List Declaration) :
    (declared ds).toList = '(' :: ([','].intercalate (spaced (ds.map (·.text))) ++ [')']) := by
  rw [declared, String.toList_ofList, intercalate_spaced]

/-! ## Uncut default values -/

theorem writesItem_text (hd : d.IsUncut) (s : List Char) (hs : s.all isBlank) :
    WritesItem d.parameter (s ++ d.text) := by
  have hdefault : WritesDefault (d.default.elim [] fun l => '=' :: l.text) := by
    cases hl : d.default with
    | none => exact .none
    | some l => exact .some (hd l hl).1 (hd l hl).2
  have h := @WritesItem.mk d.parameter s [] [] [] _ hs rfl rfl rfl hdefault
  simpa [Declaration.text] using h

theorem writes_declared (hds : ∀ d ∈ ds, d.IsUncut) : Writes (ds.map (·.parameter)) (declared ds).toList := by
  have hitems : WritesItems (ds.map (·.parameter)) (spaced (ds.map (·.text))) := by
    cases ds with
    | nil => exact .nil
    | cons d ds =>
      rw [List.forall_mem_cons] at hds
      refine .item (writesItem_text hds.1 [] rfl) ?_
      obtain ⟨-, hds⟩ := hds
      induction ds with
      | nil => exact .nil
      | cons next ds ih =>
        rw [List.forall_mem_cons] at hds
        exact .item (writesItem_text hds.1 [' '] rfl) (ih hds.2)
  rw [toList_declared]
  exact @Writes.mk _ [] [] _ rfl rfl hitems

theorem parse_declared_of_uncut (function : String) (database : Option String)
    (hp : ∀ d ∈ ds, d.parameter.IsProper) (hds : ∀ d ∈ ds, d.IsUncut) :
    parse function (declared ds) database = .ok (ds.map (·.parameter)) :=
  parse_writes function database (List.forall_mem_map.2 hp) (writes_declared hds)

/-! ## Default values that are cut -/

/-- The pieces of an item between the commas in it that are not blank. -/
def pieces (s : List Char) : List (List Char) := (s.splitOn ',').filter fun item => !item.all isBlank

theorem items_declared (ds : List Declaration) :
    items (declared ds).toList = (spaced (ds.map (·.text))).flatMap pieces := by
  have h := @items_parenthesized [] [] ([','].intercalate (spaced (ds.map (·.text)))) rfl rfl
  rw [toList_declared]
  refine h.trans ?_
  cases hss : spaced (ds.map (·.text)) with
  | nil => rfl
  | cons s ss => rw [splitOn_intercalate_eq_flatMap (List.cons_ne_nil s ss), List.filter_flatMap]; rfl

theorem pieces_append (s t : List Char) : pieces (s ++ ',' :: t) = pieces s ++ pieces t := by
  rw [pieces, List.splitOn_append_cons_self, List.filter_append]
  rfl

theorem pieces_ne_nil {c : Char} (h : c ∈ s) (hblank : isBlank c = false) (hc : c ≠ ',') : pieces s ≠ [] := by
  obtain ⟨piece, hpiece, hmem⟩ := exists_mem_splitOn h hc
  refine List.ne_nil_of_mem (List.mem_filter.2 ⟨hpiece, ?_⟩)
  rw [Bool.not_eq_true', List.all_eq_false]
  exact ⟨c, hmem, by simp [hblank]⟩

theorem length_le_flatMap_pieces (h : ∀ s ∈ ss, pieces s ≠ []) : ss.length ≤ (ss.flatMap pieces).length := by
  induction ss with
  | nil => exact Nat.le_refl 0
  | cons s ss ih =>
    obtain ⟨hs, hss⟩ := List.forall_mem_cons.1 h
    have hlength := ih hss
    have hpos := List.length_pos_iff.2 hs
    rw [List.flatMap_cons, List.length_append, List.length_cons]
    omega

theorem mem_spaced (h : s ∈ ss) : ∃ a, a.all isBlank ∧ a ++ s ∈ spaced ss := by
  cases ss with
  | nil => cases h
  | cons first ss =>
    rcases List.mem_cons.1 h with rfl | h
    · exact ⟨[], rfl, List.mem_cons_self⟩
    · exact ⟨[' '], rfl, List.mem_cons_of_mem first (List.mem_map_of_mem h)⟩

theorem colon_mem_of_mem_spaced (h : s ∈ spaced (ds.map (·.text))) : ':' ∈ s := by
  cases ds with
  | nil => cases h
  | cons d ds =>
    simp only [List.map_cons, spaced, List.mem_cons, List.mem_map, exists_exists_and_eq_and] at h
    rcases h with rfl | ⟨d, -, rfl⟩ <;> simp [Declaration.text]

theorem length_spaced (ss : List (List Char)) : (spaced ss).length = ss.length := by
  cases ss <;> simp [spaced]

theorem text_eq_of_default {l : Literal} (hl : l ∈ d.default) :
    d.text = d.parameter.name.toList ++ ':' :: (d.parameter.type.toList ++ '=' :: l.text) := by
  rw [Declaration.text, hl]
  rfl

/-- A comma in a default value makes one more item at least. -/
theorem length_lt_items_of_comma {l : Literal} (hd : d ∈ ds) (hl : l ∈ d.default) (hcomma : ',' ∈ l.text) :
    ds.length < (items (declared ds).toList).length := by
  obtain ⟨u, v, e, htext, hblank, hne⟩ := l.exists_end hcomma
  obtain ⟨a, -, hmem⟩ := mem_spaced (List.mem_map_of_mem (f := (·.text)) hd)
  have hpieces : ∀ s ∈ spaced (ds.map (·.text)), pieces s ≠ [] := fun s hs =>
    pieces_ne_nil (colon_mem_of_mem_spaced hs) (by decide) (by decide)
  have hitem : 2 ≤ (pieces (a ++ d.text)).length := by
    have hsplit : a ++ d.text = (a ++ d.parameter.name.toList ++ ':' :: (d.parameter.type.toList ++ '=' :: u)) ++
        ',' :: (v ++ [e]) := by simp [text_eq_of_default hl, htext]
    have hfirst := List.length_pos_iff.2 (pieces_ne_nil (c := ':')
      (s := a ++ d.parameter.name.toList ++ ':' :: (d.parameter.type.toList ++ '=' :: u)) (by simp) (by decide)
      (by decide))
    have hsecond := List.length_pos_iff.2 (pieces_ne_nil (s := v ++ [e]) (by simp) hblank hne)
    rw [hsplit, pieces_append, List.length_append]
    omega
  have hlength := length_spaced (ds.map (·.text))
  rw [List.length_map] at hlength
  rw [items_declared, ← hlength]
  obtain ⟨before, after, hsplit⟩ := List.append_of_mem hmem
  rw [hsplit] at hpieces ⊢
  rw [List.forall_mem_append, List.forall_mem_cons] at hpieces
  have hbefore := length_le_flatMap_pieces hpieces.1
  have hafter := length_le_flatMap_pieces hpieces.2.2
  simp only [List.flatMap_append, List.flatMap_cons, List.length_append, List.length_cons]
  omega

theorem count_colon_of_parameter? {item : List Char} {p : Parameter} (h : parameter? item = some p) :
    item.count ':' = 1 := by
  obtain ⟨name, type, rfl, hname, htype, -⟩ := parameter?_eq_some_iff.1 h
  simp [List.count_append, List.count_eq_zero.2 hname, List.count_eq_zero.2 htype]

/-- A colon in a default value makes an item that is no parameter. -/
theorem parse?_of_colon {l : Literal} (hp : d.parameter.IsProper) (hd : d ∈ ds) (hl : l ∈ d.default)
    (hcomma : ',' ∉ l.text) (hcolon : ':' ∈ l.text) : parse? (declared ds) = none := by
  obtain ⟨a, ha, hmem⟩ := mem_spaced (List.mem_map_of_mem (f := (·.text)) hd)
  have htext := text_eq_of_default hl
  have hitem : ',' ∉ a ++ d.text := by
    simp only [htext, List.mem_append, List.mem_cons, not_or]
    exact ⟨notMem_of_blank ha rfl, hp.name.noComma, by decide, hp.type.noComma, by decide, hcomma⟩
  have hblank : (a ++ d.text).all isBlank = false := by
    rw [List.all_eq_false]
    exact ⟨':', List.mem_append_right a (by simp [htext]), by decide⟩
  have hin : a ++ d.text ∈ items (declared ds).toList := by
    rw [items_declared, List.mem_flatMap]
    refine ⟨_, hmem, List.mem_filter.2 ⟨?_, by simp [hblank]⟩⟩
    rw [List.splitOn_eq_singleton hitem]
    exact List.mem_singleton_self _
  cases h : parse? (declared ds) with
  | none => rfl
  | some ps =>
    -- the item would have only one colon
    obtain ⟨p, -, hparameter⟩ := (exists_of_forall₂ (parse?_eq_some_iff.1 h)).1 _ hin
    have hcount := count_colon_of_parameter? hparameter
    have hpos := List.count_pos_iff.2 hcolon
    simp only [htext, List.count_append, List.count_cons_self, List.count_cons_of_ne (by decide : '=' ≠ ':')] at hcount
    omega

/-- A list with a default value that is cut is refused, or more parameters come of it than are declared. -/
theorem parse_declared_of_cut (function : String) (database : Option String)
    (hp : ∀ d ∈ ds, d.parameter.IsProper) (hd : d ∈ ds) (hcut : ¬d.IsUncut) :
    parse function (declared ds) database = .error (.signature function (declared ds) database) ∨
      ∃ ps, parse function (declared ds) database = .ok ps ∧ ds.length < ps.length := by
  rw [Declaration.IsUncut] at hcut
  push Not at hcut
  obtain ⟨l, hl, hcut⟩ := hcut
  cases h : parse? (declared ds) with
  | none =>
    left
    rw [parse, h]
  | some ps =>
    right
    refine ⟨ps, parse_eq_ok_iff.2 h, ?_⟩
    by_cases hcomma : ',' ∈ l.text
    · rw [← (parse?_eq_some_iff.1 h).length_eq]
      exact length_lt_items_of_comma hd hl hcomma
    · have hnone := parse?_of_colon (hp d hd) hd hl hcomma (hcut hcomma)
      rw [h] at hnone
      cases hnone

/-- Without default values a list is read as it is declared. With them it is so exactly if no comma and no
colon stands in any of them; otherwise it is refused, or there are too many parameters. -/
theorem parse_declared (function : String) (database : Option String) (hp : ∀ d ∈ ds, d.parameter.IsProper) :
    parse function (declared (ds.map (·.withoutDefault))) database = .ok (ds.map (·.parameter)) ∧
    (parse function (declared ds) database = parse function (declared (ds.map (·.withoutDefault))) database ↔
      ∀ d ∈ ds, d.IsUncut) ∧
    ((∃ d ∈ ds, ¬d.IsUncut) →
      parse function (declared ds) database = .error (.signature function (declared ds) database) ∨
        ∃ ps, parse function (declared ds) database = .ok ps ∧ ds.length < ps.length) := by
  have hwithout : parse function (declared (ds.map (·.withoutDefault))) database = .ok (ds.map (·.parameter)) := by
    have h := @parse_declared_of_uncut (ds.map (·.withoutDefault)) function database
      (List.forall_mem_map.2 hp) (List.forall_mem_map.2 fun d _ => nofun)
    rwa [List.map_map] at h
  have hcut : (∃ d ∈ ds, ¬d.IsUncut) →
      parse function (declared ds) database = .error (.signature function (declared ds) database) ∨
        ∃ ps, parse function (declared ds) database = .ok ps ∧ ds.length < ps.length := by
    rintro ⟨d, hd, h⟩
    exact parse_declared_of_cut function database hp hd h
  refine ⟨hwithout, ?_, hcut⟩
  rw [hwithout]
  constructor
  · intro h
    by_contra hall
    push Not at hall
    rcases hcut hall with herror | ⟨ps, hps, hlength⟩
    · rw [h] at herror
      cases herror
    · rw [h] at hps
      cases hps
      rw [List.length_map] at hlength
      exact Nat.lt_irrefl _ hlength
  · exact parse_declared_of_uncut function database hp

theorem parse_declared_cut :
    let ds : List Declaration := [
      ⟨⟨"n", "long"⟩, some (.number "-10".toList rfl)⟩,
      ⟨⟨"d", "datetime"⟩, some (.typed .datetime "2020-01-01 10:00".toList)⟩,
      ⟨⟨"s", "string"⟩, some (.quoted .single "a,b:c".toList)⟩]
    (∀ d ∈ ds, d.parameter.IsProper) ∧
    parse "F" (declared (ds.map (·.withoutDefault))) (some "D") = .ok (ds.map (·.parameter)) ∧
    (parse "F" (declared ds) (some "D") = parse "F" (declared (ds.map (·.withoutDefault))) (some "D") ↔
      ∀ d ∈ ds, d.IsUncut) ∧
    ((∃ d ∈ ds, ¬d.IsUncut) →
      parse "F" (declared ds) (some "D") = .error (.signature "F" (declared ds) (some "D")) ∨
        ∃ ps, parse "F" (declared ds) (some "D") = .ok ps ∧ ds.length < ps.length) := by
  intro ds
  have hp : ∀ d ∈ ds, d.parameter.IsProper := by
    simp only [ds, List.forall_mem_cons]
    exact ⟨by decide, by decide, by decide, List.forall_mem_nil _⟩
  exact ⟨hp, parse_declared "F" (some "D") hp⟩

example : parse "F" "(s:string='a,b:c')" none = .ok [⟨"s", "string"⟩, ⟨"b", "c'"⟩] := by decide +kernel

end Signature
end EntityGen
