import EntityGen.Disk.Lookup

/-! Changes of a disk. What was changed before an action fails stays changed. -/

namespace EntityGen

abbrev Action := ExceptT Trouble (StateM Disk)

namespace Action

/-- Fails for a reason of the disk's own. -/
def refuse {α : Type} (r : Refusal) : Action α := throw (.refusal r)

def locate (followLast : Bool) (p : Path) : Action Place := do
  match (← get).locate followLast p with
  | .ok l => return l
  | .error t => throw t

/-- Makes one directory; the one above it must be there. -/
def makeDirectory (p : Path) : Action Unit := do
  let l ← locate false p
  match (← get).get? l with
  | some _ => refuse .exists
  | none => modify (·.put l .directory)

/-- Anything but a directory in the way is a reason to fail. -/
def allowDirectory (p : Path) (t : Trouble) : Action Unit := do
  match t with
  | .nul => throw .nul
  | .refusal r =>
    match (← get).isDirectory p with
    | .ok true => return
    | .ok false => refuse r
    | .error s => refuse s

/-- Makes a directory if it is not there. -/
def ensureDirectory (p : Path) : Action Unit :=
  tryCatch (makeDirectory p) fun t =>
    match t with
    | .refusal .missing => refuse .missing
    | t => allowDirectory p t

/-- Makes a directory and those above it, as far as they are not there. The names are given last one
first. -/
def ensureNames (slashes : Nat) : List String → Action Unit
  | [] => ensureDirectory ⟨slashes, []⟩
  | name :: above =>
    let p : Path := ⟨slashes, (name :: above).reverse⟩
    tryCatch (makeDirectory p) fun t =>
      match t with
      | .refusal .missing => do
        ensureNames slashes above
        ensureDirectory p
      | t => allowDirectory p t

def ensureDirectories (p : Path) : Action Unit := ensureNames p.slashes p.names.reverse

/-- Puts a content into a file, which is made if it is not there. -/
def writeFile (p : Path) (content : ByteArray) : Action Unit := do
  let l ← locate true p
  match (← get).get? l with
  | some .directory => refuse .isDirectory
  | _ => modify (·.put l (.file content))

/-- Removes a file or a link. -/
def removeFile (p : Path) : Action Unit := do
  let l ← locate false p
  match (← get).get? l with
  | none => refuse .missing
  | some .directory => refuse .isDirectory
  | some _ => modify (·.erase l)

/-- Whether a directory has nothing in it. -/
def isEmptyDirectory (p : Path) : Action Bool := do
  let d ← get
  match d.entry p with
  | .error t => throw t
  | .ok .directory => return !d.hasChildren (← locate true p)
  | .ok _ => refuse .notDirectory

/-- Removes a directory that has nothing in it; a link to one is none. -/
def removeDirectory (p : Path) : Action Unit := do
  let l ← locate false p
  match (← get).get? l with
  | none => refuse .missing
  | some .directory => if (← get).hasChildren l then refuse .notEmpty else modify (·.erase l)
  | some _ => refuse .notDirectory

/-- Makes a symbolic link where nothing is. -/
def makeLink (p target : Path) : Action Unit := do
  let l ← locate false p
  match (← get).get? l with
  | some _ => refuse .exists
  | none => modify (·.put l (.link target))

end Action
end EntityGen
