import EntityGen.Config.Read
import EntityGen.Disk.RealPath
import EntityGen.Schema.Snapshot
import EntityGen.Text.Quoted
import EntityGen.Yaml.Content

/-! Documents in files: configurations and snapshots. -/

namespace EntityGen

/-- The text of a file; what is wrong with the file is said of the field. -/
def readText? (d : Disk) (p : Path) : Except Failure String :=
  match d.read p with
  | .ok content =>
    match String.fromUTF8? content with
    | some s => .ok s
    | none => .error (.data .notUtf8)
  | .error (.refusal r) =>
    .error (.ofField p.text (.unreadable r (String.ofList (Text.quoted p.text.toList))))
  | .error .nul => .error (.data .nulInPath)

/-- The entries of the mapping that a document holds. -/
def mappingOfText (field : String) (s : String) : Except Failure (List (Value × Value)) :=
  match Yaml.read s with
  | .ok v =>
    match v.entries? with
    | some entries => .ok entries
    | none => .error (.ofField field .rootShape)
  | .error .malformed => .error (.ofField field (.document "the document breaks a rule of the format"))
  | .error (.data fault) => .error (.data fault)

def mappingOfFile (d : Disk) (p : Path) : Except Failure (List (Value × Value)) := do
  mappingOfText p.text (← readText? d p)

/-- Relative paths in a configuration start at the folder of its file. -/
def Config.ofFile (d : Disk) (p : Path) : Except Failure Config := do
  let real ← (d.realPath p).mapError .data
  let found ← (d.exists? real).mapError fun r => .data (.refused r)
  if found then Config.ofEntries (← mappingOfFile d real) (some real.parent)
  else throw (.configuration (.noFile p.text) none none)

def Snapshot.ofFile (d : Disk) (p : Path) : Except Failure Snapshot := do
  Snapshot.ofEntries (← mappingOfFile d p)

end EntityGen
