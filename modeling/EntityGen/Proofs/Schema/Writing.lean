import EntityGen.Proofs.Schema.Signature

/-! Parameter lists as they may be written, all of which are read back. -/

namespace EntityGen

open Text

namespace Signature

/-- A default value with its equals sign, or nothing. -/
inductive WritesDefault : List Char → Prop
  | none : WritesDefault []
  | some {value : List Char} : ',' ∉ value → ':' ∉ value → WritesDefault ('=' :: value)

/-- A name, a colon and a type, with blanks around each of them and perhaps a default value behind. -/
inductive WritesItem (p : Parameter) : List Char → Prop
  | mk {a b c d value : List Char} : a.all isBlank → b.all isBlank → c.all isBlank → d.all isBlank →
      WritesDefault value →
      WritesItem p (a ++ p.name.toList ++ b ++ ':' :: (c ++ p.type.toList ++ d ++ value))

/-- The items of a list are its parameters in order, with blank ones anywhere among them. -/
inductive WritesItems : List Parameter → List (List Char) → Prop
  | nil : WritesItems [] []
  | item {p : Parameter} {ps : List Parameter} {s : List Char} {items : List (List Char)} :
      WritesItem p s → WritesItems ps items → WritesItems (p :: ps) (s :: items)
  | blank {ps : List Parameter} {s : List Char} {items : List (List Char)} :
      s.all isBlank → WritesItems ps items → WritesItems ps (s :: items)

/-- The items stand between parentheses, with commas between them and blanks around everything. -/
inductive Writes (ps : List Parameter) : List Char → Prop
  | mk {before after : List Char} {items : List (List Char)} : before.all isBlank → after.all isBlank →
      WritesItems ps items → Writes ps (before ++ '(' :: ([','].intercalate items ++ ')' :: after))

variable {s before after inner : List Char} {p : Parameter} {ps : List Parameter} {ss : List (List Char)}

theorem notMem_of_blank {c : Char} (hs : s.all isBlank) (hc : isBlank c = false) : c ∉ s := by
  intro h
  rw [List.all_eq_true.1 hs c h] at hc
  cases hc

theorem body_parenthesized (hb : before.all isBlank) (ha : after.all isBlank) :
    body (before ++ '(' :: (inner ++ ')' :: after)) = inner := by
  have hlast : ('(' :: (inner ++ [')'])).getLast? = some ')' := by
    rw [← List.cons_append, List.getLast?_concat]
  have htrimmed : Trimmed ('(' :: (inner ++ [')'])) := by
    refine ⟨fun c hc => ?_, fun c hc => ?_⟩
    · cases hc
      rfl
    · rw [hlast] at hc
      cases hc
      rfl
  have htrim : trim (before ++ '(' :: (inner ++ ')' :: after)) = '(' :: (inner ++ [')']) := by
    have h := trim_surrounded hb htrimmed ha
    simpa using h
  simp [body, htrim]

theorem items_parenthesized (hb : before.all isBlank) (ha : after.all isBlank) :
    items (before ++ '(' :: (inner ++ ')' :: after)) =
      (inner.splitOn ',').filter fun item => !item.all isBlank := by
  rw [items, body_parenthesized hb ha]

theorem WritesDefault.noComma {value : List Char} (h : WritesDefault value) : ',' ∉ value := by
  cases h with
  | none => exact List.not_mem_nil
  | some hcomma _ => exact List.not_mem_cons_of_ne_of_not_mem (by decide) hcomma

theorem WritesDefault.noColon {value : List Char} (h : WritesDefault value) : ':' ∉ value := by
  cases h with
  | none => exact List.not_mem_nil
  | some _ hcolon => exact List.not_mem_cons_of_ne_of_not_mem (by decide) hcolon

theorem WritesDefault.typeOf_append {value type : List Char} (h : WritesDefault value) (htype : '=' ∉ type) :
    typeOf (type ++ value) = trim type := by
  cases h with
  | none => rw [List.append_nil, typeOf_of_notMem htype]
  | some _ _ => exact typeOf_append_equals htype

theorem WritesItem.noComma (h : WritesItem p s) (hp : p.IsProper) : ',' ∉ s := by
  cases h with
  | mk ha hb hc hd hv =>
    simp only [List.mem_append, List.mem_cons, not_or]
    refine ⟨⟨⟨?_, hp.name.noComma⟩, ?_⟩, by decide, ⟨⟨?_, hp.type.noComma⟩, ?_⟩, hv.noComma⟩
    all_goals exact notMem_of_blank (by assumption) rfl

theorem WritesItem.not_blank (h : WritesItem p s) : s.all isBlank = false := by
  cases h with
  | mk =>
    rw [List.all_eq_false]
    exact ⟨':', by simp, by decide⟩

theorem WritesItem.parameter?_eq (h : WritesItem p s) (hp : p.IsProper) : parameter? s = some p := by
  cases h with
  | @mk a b c d value ha hb hc hd hv =>
    have hname : trim (a ++ p.name.toList ++ b) = p.name.toList := trim_surrounded ha hp.name.trimmed hb
    have htype : trim (c ++ p.type.toList ++ d) = p.type.toList := trim_surrounded hc hp.type.trimmed hd
    have hequals : '=' ∉ c ++ p.type.toList ++ d := by
      simp only [List.mem_append, not_or]
      exact ⟨⟨notMem_of_blank hc rfl, hp.noDefault⟩, notMem_of_blank hd rfl⟩
    refine parameter?_eq_some_iff.2 ⟨_, _, rfl, ?_, ?_, ?_, ?_, ?_⟩
    · simp only [List.mem_append, not_or]
      exact ⟨⟨notMem_of_blank ha rfl, hp.name.noColon⟩, notMem_of_blank hb rfl⟩
    · simp only [List.mem_append, not_or]
      exact ⟨⟨⟨notMem_of_blank hc rfl, hp.type.noColon⟩, notMem_of_blank hd rfl⟩, hv.noColon⟩
    · rw [← Bool.not_eq_true, ← trim_eq_nil_iff, hname, ← ofList_eq_empty_iff, String.ofList_toList]
      exact hp.name_ne
    · rw [List.all_append, Bool.and_eq_false_iff, ← Bool.not_eq_true, ← trim_eq_nil_iff, htype,
        ← ofList_eq_empty_iff, String.ofList_toList]
      exact .inl hp.type_ne
    · rw [hv.typeOf_append hequals, hname, htype, String.ofList_toList, String.ofList_toList]

theorem WritesItems.noComma (h : WritesItems ps ss) (hp : ∀ p ∈ ps, p.IsProper) : ∀ s ∈ ss, ',' ∉ s := by
  induction h with
  | nil => exact List.forall_mem_nil _
  | item hs _ ih =>
    rw [List.forall_mem_cons] at hp
    exact List.forall_mem_cons.2 ⟨hs.noComma hp.1, ih hp.2⟩
  | blank hs _ ih => exact List.forall_mem_cons.2 ⟨notMem_of_blank hs rfl, ih hp⟩

/-- The items that are not blank are read as the parameters one by one. -/
theorem WritesItems.forall₂ (h : WritesItems ps ss) (hp : ∀ p ∈ ps, p.IsProper) :
    List.Forall₂ (fun item p => parameter? item = some p) (ss.filter fun item => !item.all isBlank) ps := by
  induction h with
  | nil => exact .nil
  | item hs _ ih =>
    rw [List.forall_mem_cons] at hp
    rw [List.filter_cons_of_pos (by simp [hs.not_blank])]
    exact .cons (hs.parameter?_eq hp.1) (ih hp.2)
  | blank hs _ ih =>
    rw [List.filter_cons_of_neg (by simp [hs])]
    exact ih hp

/-- Reading undoes writing: however a list of parameters is written, it is what comes of the text. -/
theorem parse_writes {text : String} (function : String) (database : Option String)
    (hp : ∀ p ∈ ps, p.IsProper) (h : Writes ps text.toList) : parse function text database = .ok ps := by
  rw [parse_eq_ok_iff, parse?_eq_some_iff]
  generalize text.toList = written at h
  cases h with
  | @mk before after ss hb ha hss =>
    rw [items_parenthesized hb ha]
    cases ss with
    | nil => exact hss.forall₂ hp
    | cons s ss =>
      rw [List.splitOn_intercalate ',' (hss.noComma hp) (List.cons_ne_nil s ss)]
      exact hss.forall₂ hp

theorem parse_writes_spaced :
    let ps : List Parameter := [⟨"(a", "int)"⟩, ⟨"b=c", "dynamic"⟩]
    let text := "\t((a :\u00a0int) , ,,b=c: dynamic = f(1)) \n"
    (∀ p ∈ ps, p.IsProper) ∧ Writes ps text.toList ∧ parse "F" text (some "D") = .ok ps := by
  have hp : ∀ p ∈ ([⟨"(a", "int)"⟩, ⟨"b=c", "dynamic"⟩] : List Parameter), p.IsProper := by decide +kernel
  have hitems : WritesItems [⟨"(a", "int)"⟩, ⟨"b=c", "dynamic"⟩]
      ["(a :\u00a0int) ".toList, " ".toList, [], "b=c: dynamic = f(1)".toList] := by
    have hdefault : WritesDefault "= f(1)".toList := .some (by decide) (by decide)
    refine .item ?_ (.blank rfl (.blank rfl (.item ?_ .nil)))
    · exact @WritesItem.mk ⟨"(a", "int)"⟩ [] [' '] ['\u00a0'] [' '] [] rfl rfl rfl rfl .none
    · exact @WritesItem.mk ⟨"b=c", "dynamic"⟩ [] [] [' '] [' '] _ rfl rfl rfl rfl hdefault
  have htext : Writes [⟨"(a", "int)"⟩, ⟨"b=c", "dynamic"⟩]
      "\t((a :\u00a0int) , ,,b=c: dynamic = f(1)) \n".toList :=
    @Writes.mk _ ['\t'] [' ', '\n'] _ rfl rfl hitems
  exact ⟨hp, htext, parse_writes "F" (some "D") hp htext⟩

end Signature
end EntityGen
