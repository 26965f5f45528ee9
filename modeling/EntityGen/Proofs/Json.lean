import Mathlib
import EntityGen.Json
import EntityGen.Proofs.Number.Numeral
import EntityGen.Proofs.Outcome
import EntityGen.Proofs.Value.Text

/-! The steps in which JSON is read. Whatever is read has a text. -/

namespace EntityGen

namespace Value

/-- A mapping whose keys and values have texts. -/
def AllHaveText (es : List (Value × Value)) : Prop := ∀ e ∈ es, e.1.HasText ∧ e.2.HasText

theorem AllHaveText.bind {es : List (Value × Value)} {key v : Value} (h : AllHaveText es) (hk : key.HasText)
    (hv : v.HasText) : AllHaveText (bind key v es) := by
  induction es with
  | nil => exact List.forall_mem_singleton.2 ⟨hk, hv⟩
  | cons e es ih =>
    obtain ⟨he, hes⟩ := List.forall_mem_cons.1 h
    rw [Value.bind]
    split
    · exact List.forall_mem_cons.2 ⟨⟨he.1, hv⟩, hes⟩
    · exact List.forall_mem_cons.2 ⟨he, ih hes⟩

end Value

namespace Json

open Number Value

variable {s rest : List Char} {v : Value}

/-- A whole number has no more digits than are written. -/
theorem hasText_of_natOfDigits? {ds : List Char} {n : Nat} {m : Int} (hn : natOfDigits? 10 ds = some n)
    (hds : ds.length ≤ digitLimit) (hm : m.natAbs = n) : (Value.int m).HasText := by
  rw [hasText_int_iff, hm]
  have hlt : n < 10 ^ digitLimit := (natOfDigits?_lt hn).trans_le (Nat.pow_le_pow_right (by decide) hds)
  exact Nat.repr_length n digitLimit (by decide) hlt

theorem hasText_of_number? (h : number? s = some (v, rest)) : v.HasText := by
  unfold number? at h
  split at h
  next negative body _ =>
  dsimp only at h
  generalize (if body.head? = some '0' then ['0'] else List.takeWhile Char.isDigit body) = whole at h
  split at h
  · simp at h
  obtain ⟨n, hn, h⟩ := Option.bind_eq_some_iff.1 h
  split at h
  · -- neither a fraction nor an exponent: the digits that were read are counted
    split at h
    · simp at h
    · next hlen =>
      cases h
      exact hasText_of_natOfDigits? hn (Nat.le_of_not_lt hlen) (by split <;> simp)
  · cases h
    exact fun _ => rfl

theorem hasText_of_atom? (h : atom? s = some (v, rest)) : v.HasText := by
  simp only [atom?, Option.orElse_eq_orElse, Option.orElse_eq_or, Option.or_eq_some_iff, Option.map_eq_some_iff, Prod.mk.injEq] at h
  rcases h with h | ⟨-, h | ⟨-, h | ⟨-, h | ⟨-, h | ⟨-, h | ⟨-, h⟩⟩⟩⟩⟩⟩
  case inr.inr.inr.inr.inr.inr => exact hasText_of_number? h
  all_goals
    obtain ⟨_, -, rfl, -⟩ := h
    exact fun _ => rfl

theorem ofOption_eq_ok_iff {α : Type} {o : Option α} {a : α} : ofOption o = .ok a ↔ o = some a := by
  cases o <;> simp [ofOption]

/-! ## Steps of the reader -/

/-- What is read: a value, the items of a list, or the entries of a mapping after those that were there. -/
inductive Yield
  | value (v : Value)
  | items (vs : List Value)
  | members (done es : List (Value × Value))

/-- What can be read from a text with so many containers open, and what is left of the text. -/
inductive Reads : (depth : Nat) → Yield → List Char → List Char → Prop
  | atom {depth : Nat} {v : Value} {s rest : List Char} (h : atom? s = some (v, rest)) :
    Reads depth (.value v) s rest
  | string {fuel depth : Nat} {cs : List Nat} {s rest : List Char} (h : characters fuel s = some (cs, rest)) :
    Reads depth (.value (.ofCodes cs)) ('"' :: s) rest
  | emptyList {depth : Nat} {s rest : List Char} (hs : skipSpace s = ']' :: rest) :
    Reads (depth + 1) (.value (.list [])) ('[' :: s) rest
  | list {depth : Nat} {vs : List Value} {s rest : List Char} (h : Reads depth (.items vs) (skipSpace s) rest) :
    Reads (depth + 1) (.value (.list vs)) ('[' :: s) rest
  | emptyMap {depth : Nat} {s rest : List Char} (hs : skipSpace s = '\x7d' :: rest) :
    Reads (depth + 1) (.value (.map [])) ('\x7b' :: s) rest
  | map {depth : Nat} {es : List (Value × Value)} {s rest : List Char}
    (h : Reads depth (.members [] es) (skipSpace s) rest) : Reads (depth + 1) (.value (.map es)) ('\x7b' :: s) rest
  | lastItem {depth : Nat} {v : Value} {s t rest : List Char} (h : Reads depth (.value v) s t)
    (ht : skipSpace t = ']' :: rest) : Reads depth (.items [v]) s rest
  | item {depth : Nat} {v : Value} {vs : List Value} {s t u rest : List Char} (h : Reads depth (.value v) s t)
    (ht : skipSpace t = ',' :: u) (hnext : Reads depth (.items vs) (skipSpace u) rest) :
    Reads depth (.items (v :: vs)) s rest
  | lastMember {fuel depth : Nat} {name : List Nat} {v : Value} {done : List (Value × Value)}
    {s t u x rest : List Char} (hs : characters fuel s = some (name, t)) (ht : skipSpace t = ':' :: u)
    (h : Reads depth (.value v) (skipSpace u) x) (hx : skipSpace x = '\x7d' :: rest) :
    Reads depth (.members done (bind (.ofCodes name) v done)) ('"' :: s) rest
  | member {fuel depth : Nat} {name : List Nat} {v : Value} {done es : List (Value × Value)}
    {s t u x y rest : List Char} (hs : characters fuel s = some (name, t)) (ht : skipSpace t = ':' :: u)
    (h : Reads depth (.value v) (skipSpace u) x) (hx : skipSpace x = ',' :: y)
    (hnext : Reads depth (.members (bind (.ofCodes name) v done) es) (skipSpace y) rest) :
    Reads depth (.members done es) ('"' :: s) rest

mutual

/-- What is read is read in these steps. -/
theorem reads_of_value {fuel depth : Nat} {v : Value} {s rest : List Char}
    (h : value fuel depth s = .ok (v, rest)) : Reads depth (.value v) s rest := by
  cases fuel with
  | zero =>
    rw [value] at h
    cases h
  | succ fuel =>
    unfold value at h
    split at h
    case h_1 => cases h
    case h_2 =>
      obtain ⟨⟨cs, t⟩, hcs, h⟩ := bind_eq_ok_iff.1 h
      cases h
      exact .string (ofOption_eq_ok_iff.1 hcs)
    case h_3 => cases h
    case h_4 => cases h
    case h_5 heq =>
      cases heq
      split at h
      · next hs =>
        cases h
        exact .emptyList hs
      · obtain ⟨⟨vs, t⟩, hvs, h⟩ := bind_eq_ok_iff.1 h
        cases h
        exact .list (reads_of_items hvs)
    case h_6 heq =>
      cases heq
      split at h
      · next hs =>
        cases h
        exact .emptyMap hs
      · obtain ⟨⟨es, t⟩, hes, h⟩ := bind_eq_ok_iff.1 h
        cases h
        exact .map (reads_of_members hes)
    case h_7 => exact .atom (ofOption_eq_ok_iff.1 h)
termination_by fuel

theorem reads_of_items {fuel depth : Nat} {vs : List Value} {s rest : List Char}
    (h : items fuel depth s = .ok (vs, rest)) : Reads depth (.items vs) s rest := by
  cases fuel with
  | zero =>
    rw [items] at h
    cases h
  | succ fuel =>
    unfold items at h
    obtain ⟨⟨v, t⟩, hv, h⟩ := bind_eq_ok_iff.1 h
    dsimp only at h
    split at h
    · next ht =>
      cases h
      exact .lastItem (reads_of_value hv) ht
    · next ht =>
      obtain ⟨⟨vs, t'⟩, hvs, h⟩ := bind_eq_ok_iff.1 h
      cases h
      exact .item (reads_of_value hv) ht (reads_of_items hvs)
    · cases h
termination_by fuel

theorem reads_of_members {fuel depth : Nat} {done es : List (Value × Value)} {s rest : List Char}
    (h : members fuel depth done s = .ok (es, rest)) : Reads depth (.members done es) s rest := by
  cases fuel with
  | zero =>
    rw [members] at h
    cases h
  | succ fuel =>
    unfold members at h
    split at h
    case h_1 => cases h
    case h_2 heq =>
      cases heq
      obtain ⟨⟨name, t⟩, hname, h⟩ := bind_eq_ok_iff.1 h
      have hs := ofOption_eq_ok_iff.1 hname
      dsimp only at h
      split at h
      · next ht =>
        obtain ⟨⟨v, x⟩, hv, h⟩ := bind_eq_ok_iff.1 h
        dsimp only at h
        split at h
        · next hx =>
          cases h
          exact .lastMember hs ht (reads_of_value hv) hx
        · next hx => exact .member hs ht (reads_of_value hv) hx (reads_of_members h)
        · cases h
      · cases h
    case h_3 => cases h
termination_by fuel

end

/-- All that is read has texts, if the entries that were there before have some. -/
def Yield.HasTexts : Yield → Prop
  | .value v => v.HasText
  | .items vs => ∀ v ∈ vs, v.HasText
  | .members done es => AllHaveText done → AllHaveText es

theorem Reads.hasTexts {depth : Nat} {y : Yield} (h : Reads depth y s rest) : y.HasTexts := by
  induction h with
  | atom h => exact hasText_of_atom? h
  | string => exact hasText_ofCodes _
  | emptyList | emptyMap => simp [Yield.HasTexts]
  | list _ ih => exact hasText_list_iff.2 ih
  | map _ ih => exact hasText_map_iff.2 (ih (List.forall_mem_nil _))
  | lastItem _ _ ih => exact List.forall_mem_singleton.2 ih
  | item _ _ _ ih ihs => exact List.forall_mem_cons.2 ⟨ih, ihs⟩
  | lastMember _ _ _ _ ih => exact fun hd => hd.bind (hasText_ofCodes _) ih
  | member _ _ _ _ _ ih ihs => exact fun hd => ihs (hd.bind (hasText_ofCodes _) ih)

theorem hasText_of_parse {text : String} (h : parse text = .ok v) : v.HasText := by
  obtain ⟨⟨v, rest⟩, hv, h⟩ := bind_eq_ok_iff.1 h
  dsimp only at h
  split at h
  · cases h
    exact (reads_of_value hv).hasTexts
  · cases h

end Json
end EntityGen
