import EntityGen.Disk.Lookup

/-! Absolute paths without links and dots. -/

namespace EntityGen

/-- One name further. Two dots take the last name back where there is one. -/
def Path.enter (p : Path) (name : String) : Path :=
  if name = ".." then
    match p.names.getLast? with
    | none => if p.isAbsolute then p else p.below [name]
    | some last => if last = ".." then p.below [name] else p.parent
  else p.below [name]

namespace Disk

/-- Where the names of a path lead if none of them is a link. -/
def placeOf (d : Disk) (p : Path) : Place :=
  p.names.foldl (fun here name => if name = ".." then here.dropLast else here ++ [name]) (d.start p)

/-- The target of a link at a path that leads through none. -/
def target? (d : Disk) (p : Path) : Option Path :=
  if pathLimit < p.text.utf8ByteSize then none
  else match d.get? (d.placeOf p) with
    | some (.link target) => some target
    | _ => none

/-- The links met so far, with the paths that they lead to; without one while a link is followed. -/
abbrev Visited := List (Path × Option Path)

/-- How far names were followed: to their end, or to a link that leads back to itself. Then the names
behind that link are as they were. -/
structure Resolution where
  path : Path
  complete : Bool
  visited : Visited

/-- Follows names, also those that lead nowhere. `jump` goes on where a link leads. -/
def resolveWith (d : Disk) (jump : Visited → Path → List String → Resolution) :
    Visited → Path → List String → Resolution
  | visited, p, [] => ⟨p, true, visited⟩
  | visited, p, name :: rest =>
    let next := p.enter name
    match if name = ".." then none else d.target? next with
    | none => resolveWith d jump visited next rest
    | some target =>
      match visited.lookup next with
      | some (some q) => resolveWith d jump visited q rest
      | some none => ⟨next.below rest, false, visited⟩
      | none =>
        let r := jump ((next, none) :: visited) (if target.isAbsolute then ⟨1, []⟩ else p) target.names
        if r.complete then resolveWith d jump ((next, some r.path) :: r.visited) r.path rest
        else { r with path := r.path.below rest }

def resolve (d : Disk) : (links : Nat) → Visited → Path → List String → Resolution
  | 0 => resolveWith d fun visited p names => ⟨p.below names, false, visited⟩
  | links + 1 => resolveWith d (resolve d links)

/-- No more links than this are followed at once: each is met under few paths. -/
def resolveLimit (d : Disk) : Nat := (d.entries.length + 1) * (d.home.length + 3)

/-- The absolute path without links and dots for a path. Links that lead nowhere but to each other are a
fault unless dots lead out of them. -/
def realPath (d : Disk) (p : Path) : Except DataFault Path :=
  if p.hasNul then .error .nulInPath
  else
    let r := d.resolve d.resolveLimit [] (if p.isAbsolute then ⟨1, []⟩ else ⟨0, []⟩) p.names
    let real : Path := ⟨1, d.placeOf r.path⟩
    match d.locate true real with
    | .error (.refusal .tooManyLinks) => .error .endlessLinks
    | _ => .ok real

end Disk
end EntityGen
