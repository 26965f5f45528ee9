/-! Starting the command line as a program of its own. -/

namespace EntityGen

/-- A program to start: what it is told, and where it looks for its modules. -/
structure Launch where
  arguments : List String
  searchPath : String
  deriving DecidableEq

/-- The arguments are passed on; the folder `root` is searched before those that were to be searched. -/
def Launch.of (root : String) (arguments : List String) (searched : Option String) : Launch where
  arguments := ["-m", "kusto_ormgen"] ++ arguments
  searchPath :=
    match searched with
    | none | some "" => root
    | some folders => root ++ ":" ++ folders

end EntityGen
