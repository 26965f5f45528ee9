/-! Paths as texts name them. Nothing is looked up: a path may lead anywhere or nowhere. -/

namespace EntityGen

/-- The names of a path in order. Neither the empty name nor a single dot is among the names of a path
that was read from a text; two dots are. -/
structure Path where
  /-- How many slashes the path starts with: none, one, or exactly two. -/
  slashes : Nat
  names : List String
  deriving DecidableEq, Inhabited

namespace Path

/-- More than two slashes at the start count as one. -/
def leadingSlashes (s : List Char) : Nat :=
  match (s.takeWhile (· = '/')).length with
  | 0 => 0
  | 2 => 2
  | _ => 1

def isName (name : List Char) : Bool := name ≠ [] && name ≠ ['.']

def namesOf (s : List Char) : List String :=
  ((s.splitOn '/').filter isName).map String.ofList

def ofText (s : String) : Path := ⟨leadingSlashes s.toList, namesOf s.toList⟩

/-- The empty path is written as a dot. -/
def text (p : Path) : String :=
  if p.slashes = 0 && p.names.isEmpty then "."
  else String.ofList (List.replicate p.slashes '/') ++ "/".intercalate p.names

def isAbsolute (p : Path) : Bool := p.slashes ≠ 0

/-- An absolute path stands for itself wherever it is looked up from. -/
def join (p q : Path) : Path :=
  if q.isAbsolute then q else { p with names := p.names ++ q.names }

/-- The path without its last name; a path without names has itself above it. -/
def parent (p : Path) : Path := { p with names := p.names.dropLast }

/-- The last name, or nothing. -/
def name (p : Path) : String := p.names.getLast?.getD ""

def hasNul (p : Path) : Bool := p.names.any (·.contains '\x00')

/-- The path below `p` that the names lead to. -/
def below (p : Path) (names : List String) : Path := { p with names := p.names ++ names }

@[simp] theorem isAbsolute_below (p : Path) (names : List String) :
    (p.below names).isAbsolute = p.isAbsolute := rfl

@[simp] theorem below_nil (p : Path) : p.below [] = p := by simp [below]

theorem join_of_isAbsolute {p q : Path} (h : q.isAbsolute = true) : p.join q = q := by
  simp [join, h]

theorem join_of_not_isAbsolute {p q : Path} (h : q.isAbsolute = false) : p.join q = p.below q.names := by
  simp [join, below, h]

theorem isAbsolute_join {p q : Path} :
    (p.join q).isAbsolute = (p.isAbsolute || q.isAbsolute) := by
  cases hq : q.isAbsolute with
  | true => simp [join_of_isAbsolute hq, hq]
  | false => simp [join_of_not_isAbsolute hq]

theorem join_assoc (p q r : Path) : (p.join q).join r = p.join (q.join r) := by
  cases hr : r.isAbsolute with
  | true => rw [join_of_isAbsolute hr, join_of_isAbsolute hr, join_of_isAbsolute hr]
  | false =>
    cases hq : q.isAbsolute with
    | true =>
      have : (q.join r).isAbsolute = true := by simp [isAbsolute_join, hq]
      rw [join_of_isAbsolute hq, join_of_isAbsolute this]
    | false =>
      have : (q.join r).isAbsolute = false := by simp [isAbsolute_join, hq, hr]
      rw [join_of_not_isAbsolute this, join_of_not_isAbsolute hq, join_of_not_isAbsolute hr,
        join_of_not_isAbsolute hr]
      simp [below]

end Path
end EntityGen
