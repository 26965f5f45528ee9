import EntityGen.Disk.Action
import EntityGen.FileSize
import EntityGen.Schema.Catalog

/-! What a run does, step by step. -/

namespace EntityGen

inductive Event
  | announced (line : String)
  | wouldRemove (path : Path) (size : Nat)
  | prepared (bytes : Nat)
  | database (name : String)
  | section (title : String)
  | started (entity : String)
  | called (call : Call)
  | wrote (path : Path) (text : String)
  | finished (entity : String)
  | context (path : Path)
  deriving DecidableEq, Inhabited

/-- The lines that tell a person about an event. -/
def Event.lines : Event → List String
  | .announced line => [line]
  | .wouldRemove path size => ["  Would remove: " ++ path.text ++ " - " ++ sizeText size]
  | .database name =>
    [" ", "-------------------------", " Start Generate " ++ name, "-------------------------"]
  | .section title => [" ", "---------- " ++ title ++ " ----------"]
  | .started entity => [entity ++ " Start"]
  | .finished entity => [entity ++ " End"]
  | .context path => [" ", "---------- DbContext ----------", path.name ++ " Start"]
  | .prepared _ | .called _ | .wrote _ _ => []

def Event.call? : Event → Option Call
  | .called call => some call
  | _ => none

/-- The disk as it is now, and the events so far in order. -/
structure Journal where
  disk : Disk
  events : List Event

/-- The calls so far, the latest one first. -/
def Journal.calls (j : Journal) : List Call := (j.events.filterMap Event.call?).reverse

/-- What a person is told, line by line. -/
def Journal.lines (j : Journal) : List String := j.events.flatMap Event.lines

/-- A run keeps its journal also when it fails. -/
abbrev Run := ExceptT Failure (StateM Journal)

namespace Run

def note (e : Event) : Run Unit := modify fun j => { j with events := j.events ++ [e] }

/-- Runs an action on the disk. A refusal is a failure of the kind given; any other trouble is one of
the data. -/
def act {α : Type} (fault : Refusal → Failure) (a : Action α) : Run α := do
  let j ← get
  let (result, disk) := a.run.run j.disk
  set { j with disk }
  match result with
  | .ok x => return x
  | .error (.refusal r) => throw (fault r)
  | .error .nul => throw (.data .nulInPath)

/-- Asks about the disk as it is now. -/
def ask {α : Type} (q : Disk → Except Refusal α) : Run α := do
  match q (← get).disk with
  | .ok x => return x
  | .error r => throw (.data (.refused r))

/-- What a part of the disk as it is now says. -/
def load {α : Type} (f : Disk → Except Failure α) : Run α := do
  match f (← get).disk with
  | .ok x => return x
  | .error e => throw e

/-- The answer of a catalog, the call being noted. -/
def call {α : Type} (c : Call) (answer : List Call → Except Failure α) : Run α := do
  let before := (← get).calls
  note (.called c)
  match answer before with
  | .ok x => return x
  | .error f => throw f

end Run
end EntityGen
