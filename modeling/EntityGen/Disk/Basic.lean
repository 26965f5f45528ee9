import EntityGen.Path

/-! Directories, files and symbolic links by their places. -/

namespace EntityGen

/-- The names that lead from the root to a place. -/
abbrev Place := List String

inductive Entry
  | directory
  | file (content : ByteArray)
  | link (target : Path)

instance : DecidableEq Entry
  | .directory, .directory => isTrue rfl
  | .file a, .file b =>
    match ByteArray.instDecidableEq a b with
    | isTrue h => isTrue (h ▸ rfl)
    | isFalse h => isFalse fun e => h (Entry.file.inj e)
  | .link a, .link b =>
    match decEq a b with
    | isTrue h => isTrue (h ▸ rfl)
    | isFalse h => isFalse fun e => h (Entry.link.inj e)
  | .directory, .file _ | .directory, .link _ | .file _, .directory | .file _, .link _
  | .link _, .directory | .link _, .file _ => isFalse nofun

/-- What a file system holds besides its root, and the directory that relative paths start from. -/
structure Disk where
  home : Place
  entries : List (Place × Entry)

namespace Disk

def find? (l : Place) : List (Place × Entry) → Option Entry
  | [] => none
  | (m, e) :: rest => if m = l then some e else find? l rest

/-- The root is a directory that is always there. -/
def get? (d : Disk) (l : Place) : Option Entry :=
  if l = [] then some .directory else find? l d.entries

def insert (l : Place) (e : Entry) : List (Place × Entry) → List (Place × Entry)
  | [] => [(l, e)]
  | (m, f) :: rest => if m = l then (l, e) :: rest else (m, f) :: insert l e rest

/-- Puts an entry at a place, in the place of what was there. -/
def put (d : Disk) (l : Place) (e : Entry) : Disk := { d with entries := insert l e d.entries }

/-- Leaves nothing at a place. -/
def erase (d : Disk) (l : Place) : Disk := { d with entries := d.entries.filter fun e => !decide (e.1 = l) }

/-- The places strictly below a place. -/
def placesBelow (d : Disk) (l : Place) : List Place :=
  (d.entries.map (·.1)).filter fun m => l.isPrefixOf m && m ≠ l

def hasChildren (d : Disk) (l : Place) : Bool :=
  d.entries.any fun e => e.1 ≠ [] && e.1.dropLast = l

/-- A disk with nothing but a working directory. -/
def fresh (home : Place) : Disk := ⟨home, if home = [] then [] else [(home, .directory)]⟩

/-- Every entry is listed once, none at the root, and each in a directory under a name that leads neither
back nor nowhere. Relative paths may start from a place that is given up, but not from a link. -/
structure Sound (d : Disk) : Prop where
  distinct : (d.entries.map (·.1)).Nodup
  root_notMem : [] ∉ d.entries.map (·.1)
  parent : ∀ l ∈ d.entries.map (·.1), d.get? l.dropLast = some .directory
  names : ∀ l ∈ d.entries.map (·.1), ∀ name ∈ l, name ≠ ".." ∧ name.contains '\x00' = false
  targets : ∀ l t, d.get? l = some (.link t) → t.hasNul = false
  home : ∀ t, d.get? d.home ≠ some (.link t)

/-- There is no symbolic link. -/
def LinkFree (d : Disk) : Prop := ∀ l t, d.get? l ≠ some (.link t)

@[simp] theorem get?_root (d : Disk) : d.get? [] = some .directory := rfl

@[simp] theorem home_put (d : Disk) (l : Place) (e : Entry) : (d.put l e).home = d.home := rfl

@[simp] theorem home_erase (d : Disk) (l : Place) : (d.erase l).home = d.home := rfl

theorem find?_insert (l m : Place) (e : Entry) (es : List (Place × Entry)) :
    find? m (insert l e es) = if m = l then some e else find? m es := by
  induction es with
  | nil => by_cases h : m = l <;> simp_all [insert, find?, eq_comm]
  | cons f es ih =>
    simp only [insert]
    split
    · next h => by_cases hm : m = l <;> simp_all [find?, eq_comm]
    · next h =>
      by_cases hf : f.1 = m
      · simp [find?, hf]; intro hm; exact absurd (hf.trans hm) h
      · simp [find?, hf, ih]

theorem find?_filter (l m : Place) (es : List (Place × Entry)) :
    find? m (es.filter fun e => !decide (e.1 = l)) = if m = l then none else find? m es := by
  induction es with
  | nil => simp [find?]
  | cons f es ih =>
    by_cases hf : f.1 = l
    · by_cases hm : m = l
      · simp_all
      · have : f.1 ≠ m := fun h => hm (h.symm.trans hf)
        simp_all [find?]
    · by_cases hm : f.1 = m
      · simp_all [find?]
      · simp_all [find?]

theorem get?_put_self {d : Disk} {l : Place} (e : Entry) (h : l ≠ []) : (d.put l e).get? l = some e := by
  simp [get?, put, h, find?_insert]

theorem get?_put_of_ne {d : Disk} {l m : Place} (e : Entry) (h : m ≠ l) : (d.put l e).get? m = d.get? m := by
  simp [get?, put, find?_insert, h]

theorem get?_erase_self {d : Disk} {l : Place} (h : l ≠ []) : (d.erase l).get? l = none := by
  simp [get?, erase, h, find?_filter]

theorem get?_erase_of_ne {d : Disk} {l m : Place} (h : m ≠ l) : (d.erase l).get? m = d.get? m := by
  simp [get?, erase, find?_filter, h]

end Disk
end EntityGen
