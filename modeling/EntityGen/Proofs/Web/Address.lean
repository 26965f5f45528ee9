import Mathlib
import EntityGen.Web.Address

/-! What an address and a header must have for a request to be sent. -/

namespace EntityGen.Web

variable {url : String} {s : List Char}

/-- An address starts with a scheme of the web in any case, behind any blanks. -/
def HasScheme (url : String) : Prop :=
  ∃ blanks scheme rest, url.toList = blanks ++ (scheme ++ ':' :: '/' :: '/' :: rest) ∧
    (∀ c ∈ blanks, Text.isBlank c = true) ∧ String.ofList (scheme.map Char.toLower) ∈ schemes

theorem hasScheme_of_isAddress (h : isAddress url = true) : HasScheme url := by
  unfold isAddress at h
  dsimp only at h
  split at h
  · next rest hrest =>
    simp only [Bool.and_eq_true, List.contains_iff_mem] at h
    refine ⟨url.toList.takeWhile Text.isBlank, _, rest, ?_, fun _ => List.mem_takeWhile_imp, h.1.1⟩
    have hcut : url.toList.takeWhile Text.isBlank ++ url.toList.dropWhile Text.isBlank = url.toList :=
      List.takeWhile_append_dropWhile
    have hscheme : (url.toList.dropWhile Text.isBlank).takeWhile (· ≠ ':') <+: url.toList.dropWhile Text.isBlank :=
      List.takeWhile_prefix _
    rw [← hrest, List.prefix_iff_eq_append.1 hscheme, hcut]
  · cases h

/-- There is a line end in a text that is not a line feed at its end. -/
def BreaksLine (s : List Char) : Prop := '\r' ∈ s ∨ '\n' ∈ s.dropLast

theorem any_isLineEnd_iff :
    ((if s.getLast? = some '\n' then s.dropLast else s).any fun c => c = '\n' || c = '\r') = true ↔ BreaksLine s := by
  simp only [List.any_eq_true, Bool.or_eq_true, decide_eq_true_eq, BreaksLine]
  rcases List.eq_nil_or_concat s with rfl | ⟨t, c, rfl⟩
  · simp
  · rw [List.concat_eq_append, List.getLast?_concat, List.dropLast_concat]
    by_cases hc : c = '\n'
    · subst hc
      simp [and_or_left, exists_or, or_comm]
    · simp [and_or_left, exists_or, or_comm, hc, Ne.symm hc]

theorem breaksLine_append (hs : '\r' ∉ s ∧ '\n' ∉ s) (t : List Char) : BreaksLine (s ++ t) ↔ BreaksLine t := by
  rcases List.eq_nil_or_concat t with rfl | ⟨t, c, rfl⟩
  · have hlast : '\n' ∉ s.dropLast := fun h => hs.2 (List.mem_of_mem_dropLast h)
    simp [BreaksLine, hs.1, hlast]
  · rw [List.concat_eq_append, BreaksLine, ← List.append_assoc, List.dropLast_concat, BreaksLine, List.dropLast_concat]
    simp [hs]

/-- What starts with a character that is no blank fits into a header if it breaks no line. -/
theorem isHeaderValue_iff {text : String} {c : Char} (hs : text.toList = c :: s) (hc : Text.isBlank c = false) :
    isHeaderValue text = true ↔ ¬BreaksLine s := by
  rw [isHeaderValue, hs, ← any_isLineEnd_iff]
  simp [hc]

end EntityGen.Web
