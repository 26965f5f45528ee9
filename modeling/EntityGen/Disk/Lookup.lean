import EntityGen.Disk.Basic
import EntityGen.Failure

/-! Where a path leads. -/

namespace EntityGen

/-- Why an action on a disk fails: it is refused, or the path has a character that no name can have. -/
inductive Trouble
  | refusal (r : Refusal)
  | nul
  deriving DecidableEq, Inhabited

namespace Disk

/-- The longest name, in bytes. -/
def nameLimit : Nat := 255

/-- The longest path, in bytes. -/
def pathLimit : Nat := 4095

/-- How many links may be followed on one way. -/
def linkLimit : Nat := 40

def start (d : Disk) (p : Path) : Place := if p.isAbsolute then [] else d.home

/-- Where a link in the directory `here` starts to lead. -/
def linkStart (here : Place) (target : Path) : Place := if target.isAbsolute then [] else here

/-- Follows names from a place, which must be there. All but the last must lead to directories; the last
one may lead nowhere. `jump` goes on where a link leads. -/
def walkWith (d : Disk) (followLast : Bool) (jump : Place → List String → Except Refusal Place) :
    Place → List String → Except Refusal Place
  | here, [] => if (d.get? here).isSome then .ok here else .error .missing
  | here, name :: rest =>
    match d.get? here with
    | some .directory =>
      if name = ".." then walkWith d followLast jump here.dropLast rest
      else if nameLimit < name.utf8ByteSize then .error .nameTooLong
      else
        match d.get? (here ++ [name]) with
        | some (.link target) =>
          if rest.isEmpty && !followLast then .ok (here ++ [name])
          else jump (linkStart here target) (target.names ++ rest)
        | some _ => walkWith d followLast jump (here ++ [name]) rest
        | none => if rest.isEmpty then .ok (here ++ [name]) else .error .missing
    | some _ => .error .notDirectory
    | none => .error .missing

/-- From a directory, what is under the next name decides how it goes on. -/
theorem walkWith_of_directory {d : Disk} {followLast : Bool} {jump : Place → List String → Except Refusal Place}
    {here : Place} {name : String} {rest : List String} (hd : d.get? here = some .directory) (hn : name ≠ "..")
    (hs : name.utf8ByteSize ≤ nameLimit) :
    walkWith d followLast jump here (name :: rest) =
      match d.get? (here ++ [name]) with
      | some (.link target) =>
        if rest.isEmpty && !followLast then .ok (here ++ [name])
        else jump (linkStart here target) (target.names ++ rest)
      | some _ => walkWith d followLast jump (here ++ [name]) rest
      | none => if rest.isEmpty then .ok (here ++ [name]) else .error .missing := by
  simp only [walkWith, hd, if_neg hn, if_neg (Nat.not_lt.2 hs)]

def walk (d : Disk) (followLast : Bool) : (links : Nat) → Place → List String → Except Refusal Place
  | 0 => walkWith d followLast fun _ _ => .error .tooManyLinks
  | links + 1 => walkWith d followLast (walk d followLast links)

/-- The place that a path leads to, whether or not something is there. -/
def locate (d : Disk) (followLast : Bool) (p : Path) : Except Trouble Place :=
  if p.hasNul then .error .nul
  else if pathLimit < p.text.utf8ByteSize then .error (.refusal .nameTooLong)
  else (d.walk followLast linkLimit (d.start p) p.names).mapError .refusal

/-- The entry that a path leads to, links being followed. -/
def entry (d : Disk) (p : Path) : Except Trouble Entry := do
  match d.get? (← d.locate true p) with
  | some e => .ok e
  | none => .error (.refusal .missing)

/-- A question about an entry. Where there is none the answer is no; only a name that is too long is
a reason not to answer. -/
def test (d : Disk) (q : Entry → Bool) (p : Path) : Except Refusal Bool :=
  match d.entry p with
  | .ok e => .ok (q e)
  | .error (.refusal .nameTooLong) => .error .nameTooLong
  | .error _ => .ok false

def isFile (d : Disk) (p : Path) : Except Refusal Bool :=
  d.test (fun e => match e with | .file _ => true | _ => false) p

def isDirectory (d : Disk) (p : Path) : Except Refusal Bool :=
  d.test (fun e => match e with | .directory => true | _ => false) p

def exists? (d : Disk) (p : Path) : Except Refusal Bool := d.test (fun _ => true) p

/-- The content of a file. -/
def read (d : Disk) (p : Path) : Except Trouble ByteArray := do
  match ← d.entry p with
  | .file content => .ok content
  | _ => .error (.refusal .isDirectory)

/-- Names are put in order character by character. -/
def charsLe : List Char → List Char → Bool
  | [], _ => true
  | _ :: _, [] => false
  | a :: s, b :: t => a.toNat < b.toNat || (a = b && charsLe s t)

/-- Paths are put in order name by name. -/
def placeLe : Place → Place → Bool
  | [], _ => true
  | _ :: _, [] => false
  | a :: l, b :: m => if a = b then placeLe l m else charsLe a.toList b.toList

/-- The paths of places. What is a directory is looked into by its path, so that must not be too long. -/
def pathsOf (d : Disk) (pathOf : Place → Path) (ls : List Place) : Except Refusal (List Path) := do
  let _ ← (ls.filter (d.get? · = some .directory)).mapM fun l => d.isDirectory (pathOf l)
  return ls.map pathOf

/-- The paths of everything below a directory in order, without entering links. What is no directory
has nothing below it. -/
def pathsBelow (d : Disk) (p : Path) : Except Refusal (List Path) := do
  if ← d.isDirectory p then
    match d.locate true p with
    | .ok l => d.pathsOf (fun m => p.below (m.drop l.length)) ((d.placesBelow l).mergeSort placeLe)
    | .error _ => .ok []
  else .ok []

end Disk
end EntityGen
