import EntityGen.Failure
import EntityGen.Glob
import EntityGen.Pattern.Run

/-! Ways for a name to match. -/

namespace EntityGen

def Pattern.Fault.failure : Pattern.Fault → Failure
  | .malformed => .ofField "pattern" (.pattern "the pattern is malformed")
  | .repetitionTooLarge => .data .repetitionTooLarge
  | .numberTooLong => .data .numberTooLong
  | .codeTooLarge => .data .codeTooLarge
  | .conflictingAlphabets => .data .conflictingAlphabets
  | .tooDeep => .data .tooDeep

/-- A pattern of one of the six kinds. -/
inductive Matcher
  | glob (pattern : String)
  | regex (pattern : String) (expr : Pattern.Expr)
  | exact (pattern : String)
  | starts (pattern : String)
  | ends (pattern : String)
  | contains (pattern : String)
  deriving DecidableEq

namespace Matcher

def regexOf (pattern : String) : Except Failure Matcher :=
  match Pattern.Expr.ofText pattern.toList with
  | .ok e => .ok (.regex pattern e)
  | .error fault => .error fault.failure

/-- The matcher of a named kind; `none` if there is no such kind. -/
def ofKind? (kind pattern : String) : Option (Except Failure Matcher) :=
  match kind with
  | "glob" => some (.ok (.glob pattern))
  | "regex" => some (regexOf pattern)
  | "exact" => some (.ok (.exact pattern))
  | "prefix" => some (.ok (.starts pattern))
  | "suffix" => some (.ok (.ends pattern))
  | "contains" => some (.ok (.contains pattern))
  | _ => none

def kind : Matcher → String
  | .glob _ => "glob"
  | .regex _ _ => "regex"
  | .exact _ => "exact"
  | .starts _ => "prefix"
  | .ends _ => "suffix"
  | .contains _ => "contains"

def pattern : Matcher → String
  | .glob p | .regex p _ | .exact p | .starts p | .ends p | .contains p => p

/-- Whether `part` stands somewhere in the text. -/
def occursIn (part : List Char) : List Char → Bool
  | [] => part.isEmpty
  | c :: s => part.isPrefixOf (c :: s) || occursIn part s

def accepts : Matcher → String → Bool
  | .glob p, name => (Glob.ofChars p.toList).accepts name.toList
  | .regex _ e, name => e.fullMatch name.toList
  | .exact p, name => name = p
  | .starts p, name => p.toList.isPrefixOf name.toList
  | .ends p, name => p.toList.isSuffixOf name.toList
  | .contains p, name => occursIn p.toList name.toList

theorem occursIn_iff {part : List Char} {s : List Char} :
    occursIn part s = true ↔ ∃ a b, s = a ++ part ++ b := by
  induction s with
  | nil =>
    simp only [occursIn, List.isEmpty_iff]
    constructor
    · rintro rfl; exact ⟨[], [], rfl⟩
    · rintro ⟨a, b, h⟩; simp_all
  | cons c s ih =>
    simp only [occursIn, Bool.or_eq_true, ih, List.isPrefixOf_iff_prefix]
    constructor
    · rintro (⟨b, hb⟩ | ⟨a, b, rfl⟩)
      · exact ⟨[], b, by simpa using hb.symm⟩
      · exact ⟨c :: a, b, by simp⟩
    · rintro ⟨a, b, h⟩
      cases a with
      | nil => exact .inl ⟨b, by simpa using h.symm⟩
      | cons d a =>
        simp only [List.cons_append, List.cons.injEq] at h
        exact .inr ⟨a, b, h.2⟩

end Matcher
end EntityGen
