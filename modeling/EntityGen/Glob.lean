/-! Patterns for names in which a star stands for any text, a question mark for any character and
brackets for one character of a set. -/

namespace EntityGen

inductive GlobMember
  | char (c : Char)
  | range (low high : Char)
  deriving DecidableEq

def GlobMember.holds (c : Char) : GlobMember → Bool
  | .char a => c = a
  | .range low high => low ≤ c && c ≤ high

inductive GlobPart
  | star
  | one
  | char (c : Char)
  | set (negated : Bool) (members : List GlobMember)
  deriving DecidableEq

/-- Whether a single character fits a part other than a star. -/
def GlobPart.holds (c : Char) : GlobPart → Bool
  | .star => false
  | .one => true
  | .char a => c = a
  | .set negated members => members.any (·.holds c) != negated

abbrev Glob := List GlobPart

namespace Glob

/-- The text of a set up to its closing bracket, and what follows. A bracket that comes first, or
first after the exclamation mark, belongs to the set. -/
def setText? (s : List Char) : Option (List Char × List Char) :=
  let (start, body) := match s with
    | '!' :: ']' :: rest => (['!', ']'], rest)
    | '!' :: rest => (['!'], rest)
    | ']' :: rest => ([']'], rest)
    | _ => ([], s)
  match body.dropWhile (· ≠ ']') with
  | [] => none
  | _ :: rest => some (start ++ body.takeWhile (· ≠ ']'), rest)

/-- Cuts the text of a set at the hyphens that form ranges. The first `skip` characters are passed
over, and so are two characters behind every cut. -/
def pieces (piece : List Char) : (skip : Nat) → List Char → List (List Char)
  | _, [] => [piece]
  | skip + 1, c :: rest => pieces (piece ++ [c]) skip rest
  | 0, '-' :: rest => piece :: pieces [] 2 rest
  | 0, c :: rest => pieces (piece ++ [c]) 0 rest

/-- A hyphen with nothing behind it is a character. -/
def closeLast : List (List Char) → List (List Char)
  | [a, []] => [a ++ ['-']]
  | a :: rest => a :: closeLast rest
  | [] => []

/-- Joins two pieces whose range would run backwards: its two ends are dropped. -/
def dropReversed : List (List Char) → List (List Char)
  | [] => []
  | a :: rest =>
    match dropReversed rest with
    | [] => [a]
    | b :: more =>
      match a.getLast?, b.head? with
      | some high, some low => if low < high then (a.dropLast ++ b.drop 1) :: more else a :: b :: more
      | _, _ => a :: b :: more

/-- The characters of the pieces with `none` for every hyphen between them. -/
def joinPieces : List (List Char) → List (Option Char)
  | [] => []
  | [a] => a.map some
  | a :: rest => a.map some ++ none :: joinPieces rest

/-- A hyphen between two characters forms their range. -/
def membersOf : List (Option Char) → List GlobMember
  | [] => []
  | some low :: none :: some high :: rest => .range low high :: membersOf rest
  | some c :: rest => .char c :: membersOf rest
  | none :: rest => .char '-' :: membersOf rest

/-- The part that the text of a set stands for. An exclamation mark that is left in front negates. -/
def ofSetText (s : List Char) : GlobPart :=
  let skip := if s.head? = some '!' then 2 else 1
  match joinPieces (dropReversed (closeLast (pieces [] skip s))) with
  | some '!' :: rest => .set true (membersOf rest)
  | marks => .set false (membersOf marks)

/-- The parts of a pattern. A bracket that is never closed is a character. -/
def parse : (fuel : Nat) → List Char → Glob
  | 0, _ => []
  | _, [] => []
  | fuel + 1, '*' :: rest => .star :: parse fuel rest
  | fuel + 1, '?' :: rest => .one :: parse fuel rest
  | fuel + 1, '[' :: rest =>
    match setText? rest with
    | some (s, after) => ofSetText s :: parse fuel after
    | none => .char '[' :: parse fuel rest
  | fuel + 1, c :: rest => .char c :: parse fuel rest

def ofChars (s : List Char) : Glob := parse s.length s

/-- Whether some end of the text satisfies `rest`. -/
def anyEnd (rest : List Char → Bool) : List Char → Bool
  | [] => rest []
  | c :: s => rest (c :: s) || anyEnd rest s

/-- Whether the whole text fits the parts in order. -/
def fits : Glob → List Char → Bool
  | [], s => s.isEmpty
  | .star :: parts, s => anyEnd (fits parts) s
  | p :: parts, s =>
    match s with
    | [] => false
    | c :: rest => p.holds c && fits parts rest

/-- For every place, whether there is a `true` there or behind it. -/
def anyBehind : List Bool → List Bool
  | [] => []
  | b :: rest =>
    match anyBehind rest with
    | [] => [b]
    | a :: more => (b || a) :: a :: more

/-- For every end of the text, the longest first, whether it fits the parts. -/
def fitRow : Glob → List Char → List Bool
  | [], s => s.map (fun _ => false) ++ [true]
  | .star :: parts, s => anyBehind (fitRow parts s)
  | p :: parts, s => List.zipWith (fun c b => p.holds c && b) s (fitRow parts s).tail ++ [false]

/-- Whether the whole text fits, in time proportional to the two lengths. -/
def accepts (g : Glob) (s : List Char) : Bool := (fitRow g s).head?.getD false

def ends : List Char → List (List Char)
  | [] => [[]]
  | c :: s => (c :: s) :: ends s

theorem anyBehind_map_ends (f : List Char → Bool) (s : List Char) :
    anyBehind ((ends s).map f) = (ends s).map (anyEnd f) := by
  induction s with
  | nil => rfl
  | cons c s ih =>
    simp only [ends, List.map_cons, anyBehind, ih]
    cases s <;> simp [ends, anyEnd]

theorem fitRow_eq (g : Glob) (s : List Char) : fitRow g s = (ends s).map (fits g) := by
  induction g with
  | nil =>
    induction s with
    | nil => rfl
    | cons c s ih =>
      simp only [fitRow] at ih
      simp only [fitRow, ends, List.map_cons, List.cons_append, ih, fits, List.isEmpty_cons]
  | cons p g ih =>
    have row (h : p ≠ .star) : fitRow (p :: g) s =
        List.zipWith (fun c b => p.holds c && b) s (fitRow g s).tail ++ [false] := by
      cases p <;> first | exact absurd rfl h | rfl
    have step (h : p ≠ .star) (t : List Char) : fits (p :: g) t =
        match t with
        | [] => false
        | c :: rest => p.holds c && fits g rest := by
      cases p <;> first | exact absurd rfl h | rfl
    by_cases h : p = .star
    · subst h
      simp only [fitRow, ih, anyBehind_map_ends]
      rfl
    · rw [row h, ih]
      clear ih row
      induction s with
      | nil => simp [ends, step h]
      | cons c s hs =>
        cases s with
        | nil => simp [ends, step h]
        | cons d s => simpa [ends, step h] using hs

theorem accepts_eq_fits (g : Glob) (s : List Char) : accepts g s = fits g s := by
  rw [accepts, fitRow_eq]
  cases s <;> rfl

end Glob
end EntityGen
