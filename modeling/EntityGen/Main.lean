import EntityGen.Command

/-! The program. It sees the working directory and what is below it, lets a command run on that, and
makes the changes. It has no way to reach a cluster. -/

namespace EntityGen.Program

def placeText (l : Place) : String := "/" ++ "/".intercalate l

/-- The target of a link; a link that leads nowhere is taken for one to itself. -/
def linkTarget (l : Place) : IO Path := do
  try return .ofText (← IO.FS.realPath (placeText l)).toString
  catch _ => return ⟨1, l⟩

/-- Everything below a directory. -/
partial def readBelow (l : Place) : IO (List (Place × Entry)) := do
  let mut found := []
  for e in ← (← IO.FS.realPath (placeText l)).readDir do
    let m := l ++ [e.fileName]
    match (← e.path.symlinkMetadata).type with
    | .dir => found := found ++ (m, Entry.directory) :: (← readBelow m)
    | .file => found := found ++ [(m, Entry.file (← IO.FS.readBinFile (placeText m)))]
    | .symlink => found := found ++ [(m, Entry.link (← linkTarget m))]
    | .other => pure ()
  return found

/-- The directories that lead to a place, the place included. -/
def ancestors (l : Place) : List (Place × Entry) :=
  (List.range l.length).map fun n => (l.take (n + 1), .directory)

def readDisk (home : Place) : IO Disk :=
  return ⟨home, ancestors home ++ (← readBelow home)⟩

/-- Removes what is no longer there, what is deepest first. -/
def removeOld (before after : Disk) : IO Unit := do
  let gone := before.entries.filter fun e => after.get? e.1 = none
  for (l, e) in gone.mergeSort fun a b => decide (b.1.length ≤ a.1.length) do
    match e with
    | .directory => IO.FS.removeDir (placeText l)
    | .file _ | .link _ => IO.FS.removeFile (placeText l)

/-- Makes what is new or different, what is outermost first. -/
def makeNew (before after : Disk) : IO Unit := do
  let changed := after.entries.filter fun e => before.get? e.1 ≠ some e.2
  for (l, e) in changed.mergeSort fun a b => decide (a.1.length ≤ b.1.length) do
    match e with
    | .directory => IO.FS.createDir (placeText l)
    | .file content => IO.FS.writeBinFile (placeText l) content
    | .link _ => pure ()

/-- What a snapshot answers does not depend on the clock, so none is read. -/
def surroundings : IO Surroundings :=
  return {
    token := ← IO.getEnv "KUSTO_ACCESS_TOKEN", respond := fun _ _ => .fault .connection, now := .first }

/-- The code that the program ends with. -/
def report : Ending → IO UInt32
  | .exit code message => do
    (← IO.getStderr).putStr message
    return .ofNat code
  | .crash fault => do
    IO.eprintln fault.text
    return 1

end EntityGen.Program

open EntityGen EntityGen.Program

def main (args : List String) : IO UInt32 := do
  let before ← readDisk (Path.ofText (← IO.currentDir).toString).names
  let (ending, journal) := (Invocation.ofArguments args).run (← surroundings) before
  removeOld before journal.disk
  makeNew before journal.disk
  for line in journal.lines do IO.println line
  report ending
