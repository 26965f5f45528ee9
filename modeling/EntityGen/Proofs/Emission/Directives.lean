import EntityGen.Proofs.Emission.SourceFile

/-! The using directives of a file: which there are, and that they can be read off its lines. -/

namespace EntityGen

open Text

/-! ## Lists without repetition -/

section Repetition

variable {α β : Type} [DecidableEq α] [DecidableEq β]

theorem nodup_eraseDups : ∀ l : List α, l.eraseDups.Nodup
  | [] => List.nodup_nil
  | a :: l => by
    rw [List.eraseDups_cons, List.nodup_cons]
    exact ⟨by simp [List.mem_eraseDups], nodup_eraseDups _⟩
termination_by l => l.length
decreasing_by exact Nat.lt_succ_of_le (List.length_filter_le _ _)

theorem eraseDups_map {f : α → β} (hf : Function.Injective f) : ∀ l : List α, (l.map f).eraseDups = l.eraseDups.map f
  | [] => rfl
  | a :: l => by
    have hne : ((fun b => !b == f a) ∘ f) = fun b => !b == a := by
      funext b
      simp [hf.eq_iff]
    rw [List.map_cons, List.eraseDups_cons, List.eraseDups_cons, List.map_cons, List.filter_map, hne, eraseDups_map hf]
termination_by l => l.length
decreasing_by exact Nat.lt_succ_of_le (List.length_filter_le _ _)

end Repetition

namespace FileFrame

variable {usings : List String} {own x u : String}

/-- The directive that uses a namespace. -/
def usingLine (name : String) : String := "using " ++ name ++ ";"

/-- What starts like a directive is taken for one. -/
def StartsDirective (name : String) : Prop := "using".toList <+: name.toList

instance (name : String) : Decidable (StartsDirective name) := inferInstanceAs (Decidable (_ <+: _))

theorem usingLine_injective : Function.Injective usingLine := by
  intro x y h
  rw [usingLine, usingLine, ← String.toList_inj] at h
  simpa [String.toList_inj] using h

theorem startsDirective_usingLine (x : String) : StartsDirective (usingLine x) :=
  ⟨(" " ++ x ++ ";").toList, by simp [usingLine]⟩

theorem blank_mem_usingLine (x : String) : ' ' ∈ (usingLine x).toList := by simp [usingLine]

theorem usingLine_ne (x : String) (h : ' ' ∉ u.toList) : usingLine x ≠ u := by
  rintro rfl
  exact h (blank_mem_usingLine x)

theorem directive_of_startsDirective (h : StartsDirective u) : directive u = u :=
  if_pos (List.isPrefixOf_iff_prefix.2 h)

theorem directive_of_not_startsDirective (h : ¬ StartsDirective u) : directive u = usingLine u :=
  if_neg (mt List.isPrefixOf_iff_prefix.1 h)

theorem nodup_directives (usings : List String) (own : String) : (directives usings own).Nodup := nodup_eraseDups _

theorem usingLine_mem_directives_iff (h : ∀ u ∈ usings, ¬ StartsDirective u) :
    usingLine x ∈ directives usings own ↔ x ∈ usings ∧ x ≠ "" ∧ x ≠ own := by
  rw [mem_directives_iff]
  constructor
  · rintro ⟨u, hu, hne, hown, heq⟩
    rw [directive_of_not_startsDirective (h u hu)] at heq
    rw [← usingLine_injective heq]
    exact ⟨hu, hne, hown⟩
  · rintro ⟨hx, hne, hown⟩
    exact ⟨x, hx, hne, hown, directive_of_not_startsDirective (h x hx)⟩

/-! ## The directives of a file -/

/-- The using directives of a file, read off its lines. They end at the first blank line. -/
def readDirectives? (ls : List String) : Option (List String) :=
  (cut? "" (FileContent.readFlag (ls.drop 2)).2).map (·.1)

/-- The directives can be read off the text whatever is declared below them. -/
theorem readDirectives?_text (f : FileFrame) (h : ∀ u ∈ f.usings, OneLine u) (declaration : String) :
    readDirectives? (linesIn (f.text declaration)) = some (directives f.usings f.namespace) := by
  have hlines : ∀ line ∈ f.header ++ [""], OneLine line :=
    List.forall_mem_append.2 ⟨FileContent.oneLine_of_mem_header f.nullable (oneLine_of_mem_directives h),
      List.forall_mem_singleton.2 oneLine_literal⟩
  have htext : ∃ rest, f.text declaration = linesOf (f.header ++ [""]) ++ rest := by
    rw [linesOf_append]
    exact ⟨_, rfl⟩
  obtain ⟨rest, hrest⟩ := htext
  have hseparate := separate_content f []
  have hflag := FileContent.readFlag_append (FileContent.head?_append_ne hseparate.2 (linesIn rest)) f.nullable
  have hdrop : (f.header ++ [""] ++ linesIn rest).drop 2 =
      (if f.nullable then ["#nullable enable"] else []) ++ ((f.content []).directives ++ "" :: linesIn rest) := by
    simp [header, content]
  rw [hrest, linesIn_linesOf_append hlines, readDirectives?, hdrop, hflag, cut?_append hseparate.1]
  rfl

/-! ## Two ways to write a namespace -/

/-- A namespace that a file uses is given by its name or by the directive for it, or left blank. -/
inductive Import
  | blank
  | name (x : String)
  | directive (x : String)

namespace Import

def text : Import → String
  | blank => ""
  | name x => x
  | directive x => usingLine x

def namespace? : Import → Option String
  | blank => none
  | name x | directive x => some x

end Import

/-- All that counts of identifiers with dots between them: there is one, and no blank in it. -/
structure IsQualified (name : String) : Prop where
  ne_empty : name ≠ ""
  noBlank : ' ' ∉ name.toList

variable {entries : List Import}

/-- The own namespace is nowhere written as a directive, and no other name starts like one. -/
structure AreClear (entries : List Import) (own : String) : Prop where
  ownUnwritten : .directive own ∉ entries
  names : ∀ x, .name x ∈ entries → StartsDirective x → x = own

theorem AreClear.tail {e : Import} (h : AreClear (e :: entries) own) : AreClear entries own :=
  ⟨fun hmem => h.ownUnwritten (List.mem_cons_of_mem e hmem), fun x hx => h.names x (List.mem_cons_of_mem e hx)⟩

theorem map_directive_texts (h : AreClear entries own) (hown : IsQualified own)
    (hnames : ∀ x, .name x ∈ entries → IsQualified x) :
    ((entries.map Import.text).filter fun u => u ≠ "" && u ≠ own).map directive =
      ((entries.filterMap Import.namespace?).filter (· ≠ own)).map usingLine := by
  induction entries with
  | nil => rfl
  | cons e entries ih =>
    have htail := ih h.tail fun x hx => hnames x (List.mem_cons_of_mem e hx)
    cases e with
    | blank => simpa [Import.text, Import.namespace?, List.filterMap_cons] using htail
    | name x =>
      have hne := (hnames x List.mem_cons_self).ne_empty
      by_cases hx : x = own
      · simpa [Import.text, Import.namespace?, hx] using htail
      · have hline := directive_of_not_startsDirective (mt (h.names x List.mem_cons_self) hx)
        simpa [Import.text, Import.namespace?, hx, hne, hline] using htail
    | directive x =>
      have hx : x ≠ own := by
        rintro rfl
        exact h.ownUnwritten List.mem_cons_self
      have hne := usingLine_ne x (u := "") (by decide)
      have hline := usingLine_ne x hown.noBlank
      have hkept := directive_of_startsDirective (startsDirective_usingLine x)
      simpa [Import.text, Import.namespace?, hx, hne, hline, hkept] using htail

theorem usingLine_own_mem (hown : IsQualified own) (h : .directive own ∈ entries) :
    usingLine own ∈ directives (entries.map Import.text) own :=
  mem_directives_iff.2 ⟨usingLine own, List.mem_map_of_mem h, usingLine_ne own (by decide),
    usingLine_ne own hown.noBlank, directive_of_startsDirective (startsDirective_usingLine own)⟩

theorem name_mem (hx : .name x ∈ entries) (hne : x ≠ own) (h : StartsDirective x) :
    x ∈ directives (entries.map Import.text) own := by
  refine mem_directives_iff.2 ⟨x, List.mem_map_of_mem (f := Import.text) hx, ?_, hne, directive_of_startsDirective h⟩
  rintro rfl
  exact absurd h (by decide)

/-- There is one directive for each namespace but the own one, in the order in which they are given, if the own one is
not written as a directive and no name starts like one. Otherwise there is the directive for the own one too, or such a
name as it stands. -/
theorem directives_tell (hown : IsQualified own) (hnames : ∀ x, .name x ∈ entries → IsQualified x) :
    (directives (entries.map Import.text) own =
        ((entries.filterMap Import.namespace?).filter (· ≠ own)).eraseDups.map usingLine ↔ AreClear entries own) ∧
      (.directive own ∈ entries → usingLine own ∈ directives (entries.map Import.text) own) ∧
      ∀ x, .name x ∈ entries → x ≠ own → StartsDirective x → x ∈ directives (entries.map Import.text) own := by
  refine ⟨⟨fun heq => ⟨fun hmem => ?_, fun x hx hstart => ?_⟩, fun h => ?_⟩, usingLine_own_mem hown,
    fun x => name_mem⟩
  · have hdirective := usingLine_own_mem hown hmem
    rw [heq, List.mem_map_of_injective usingLine_injective, List.mem_eraseDups, List.mem_filter] at hdirective
    exact of_decide_eq_true hdirective.2 rfl
  · by_contra hne
    have hdirective := name_mem hx hne hstart
    rw [heq] at hdirective
    obtain ⟨y, -, rfl⟩ := List.mem_map.1 hdirective
    exact (hnames _ hx).noBlank (blank_mem_usingLine y)
  · rw [directives, map_directive_texts h hown hnames, eraseDups_map usingLine_injective]

theorem directives_tell_unclear :
    IsQualified "N" ∧ (∀ x, .name x ∈ [Import.directive "N", .name "usings.A"] → IsQualified x) ∧
      "using N;" ∈ directives ["using N;", "usings.A"] "N" ∧ "usings.A" ∈ directives ["using N;", "usings.A"] "N" := by
  have hown : IsQualified "N" := ⟨by decide, by decide⟩
  have hnames : ∀ x, .name x ∈ [Import.directive "N", .name "usings.A"] → IsQualified x := by
    intro x hx
    simp only [List.mem_cons, List.not_mem_nil, reduceCtorEq, Import.name.injEq, false_or, or_false] at hx
    subst hx
    exact ⟨by decide, by decide⟩
  obtain ⟨-, hwritten, hstart⟩ := directives_tell hown hnames
  exact ⟨hown, hnames, hwritten (by simp), hstart "usings.A" (by simp) (by decide) (by decide)⟩

end FileFrame
end EntityGen
