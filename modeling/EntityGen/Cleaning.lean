import EntityGen.Journal

/-! Removing what was generated. -/

namespace EntityGen.Cleaning

/-- The files below a directory in order; a link to a file is one. -/
def filesBelow (d : Disk) (folder : Path) : Except Refusal (List Path) := do
  (← d.pathsBelow folder).filterM d.isFile

def fileSize (d : Disk) (p : Path) : Nat :=
  match d.read p with
  | .ok content => content.size
  | .error _ => 0

/-- Removes a file, or tells that it would be removed. Gives the bytes that this frees. -/
def removeFile (dry : Bool) (p : Path) : Run Nat := do
  if ← Run.ask (·.isFile p) then
    let size := fileSize (← get).disk p
    if dry then Run.note (.wouldRemove p size)
    else Run.act (fun r => .filesystem (.removeFile r) p.text) (Action.removeFile p)
    return size
  else return 0

/-- The directories below a folder, links to directories included, the deepest first. -/
def directoriesBelow (d : Disk) (folder : Path) : Except Refusal (List Path) := do
  let found ← (← d.pathsBelow folder).filterM d.isDirectory
  return found.mergeSort fun p q => decide (q.names.length ≤ p.names.length)

/-- Removes a directory if it is empty. -/
def pruneDirectory (p : Path) : Run Unit :=
  Run.act (fun r => .filesystem (.removeDirectory r) p.text) do
    if ← Action.isEmptyDirectory p then Action.removeDirectory p

/-- Removes the empty directories below a folder and those that this empties; the folder stays. -/
def prune (folder : Path) : Run Unit := do
  if ← Run.ask (·.isDirectory folder) then
    (← Run.ask (directoriesBelow · folder)).forM pruneDirectory

/-- Removes files in order and adds up what they free. -/
def removeFiles (dry : Bool) : List Path → Run Nat
  | [] => return 0
  | p :: rest => return (← removeFile dry p) + (← removeFiles dry rest)

/-- Removes everything below the folder of the models. -/
def cleanModels (dry : Bool) (folder : Path) : Run Nat := do
  if ← Run.ask (·.isDirectory folder) then
    let bytes ← removeFiles dry (← Run.ask (·.pathsBelow folder))
    if !dry then prune folder
    return bytes
  else return 0

def cleanContext (dry : Bool) : Option Path → Run Nat
  | none => return 0
  | some file => removeFile dry file

/-- Removes the file of the context and then the models. -/
def cleanOutput (dry : Bool) (folder : Path) (context : Option Path) : Run Nat :=
  return (← cleanContext dry context) + (← cleanModels dry folder)

end EntityGen.Cleaning
