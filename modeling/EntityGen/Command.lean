import EntityGen.Arguments
import EntityGen.Generation
import EntityGen.Loading
import EntityGen.Schema.Service

/-! The commands of the command line. -/

namespace EntityGen

/-- What the command to generate is told. -/
structure GenerateOptions where
  config : Path
  cluster : Option String := none
  token : Option String := none
  snapshot : Option Path := none
  timeout : Number.Double := .ofNat 60
  overrides : Config.Overrides := {}

structure CleanOptions where
  config : Path
  dry : Bool := false

inductive Invocation
  | help
  | usage (command : String)
  | unknown (command : String)
  | misuse (m : Misuse)
  | generate (o : GenerateOptions)
  | clean (o : CleanOptions)

/-- What a command can see of the world besides the disk. -/
structure Surroundings where
  token : Option String
  respond : List Call → Call → Response
  now : Calendar.Moment

/-- How a command ends: with a code and what is said about a failure, or without an account of it. -/
inductive Ending
  | exit (code : Nat) (message : String)
  | crash (fault : DataFault)
  deriving DecidableEq

/-- The commands and what they do. -/
def commands : List (String × String) :=
  [("generate", "Generate C# models and a DbContext from Kusto schemas"),
    ("clean", "Remove previously generated output")]

/-! ## Reading arguments -/

def helpOption : OptionSpec := ⟨["-h", "--help"], .nothing⟩

def generateOptions : List OptionSpec :=
  [helpOption, ⟨["--cluster"], .text⟩, ⟨["--token"], .text⟩, ⟨["--snapshot"], .text⟩,
    ⟨["--timeout"], .number⟩, ⟨["--clean"], .nothing⟩, ⟨["--no-context"], .nothing⟩,
    ⟨["--nullable"], .nothing⟩]

def cleanOptions : List OptionSpec := [helpOption, ⟨["--dry-run"], .nothing⟩]

def GenerateOptions.ofFound (f : Arguments.Found) : GenerateOptions where
  config := .ofText (f.subject.getD "")
  cluster := f.operand? "--cluster"
  token := f.operand? "--token"
  snapshot := (f.operand? "--snapshot").map .ofText
  timeout := ((f.operand? "--timeout").bind fun s => Number.Double.parse? s.toList).getD (.ofNat 60)
  overrides := {
    clean := f.has "--clean", noContext := f.has "--no-context", nullable := f.has "--nullable" }

def CleanOptions.ofFound (f : Arguments.Found) : CleanOptions where
  config := .ofText (f.subject.getD "")
  dry := f.has "--dry-run"

namespace Invocation

def ofParsed (command : String) (make : Arguments.Found → Invocation) :
    Except Misuse Arguments.Found → Invocation
  | .error m => .misuse m
  | .ok f => if f.has "--help" then .usage command else make f

def ofArguments : List String → Invocation
  | [] => .help
  | command :: rest =>
    if command = "-h" || command = "--help" then .help
    else if command = "generate" then
      ofParsed command (.generate ∘ .ofFound) (Arguments.parse generateOptions "--help" "config" rest)
    else if command = "clean" then
      ofParsed command (.clean ∘ .ofFound) (Arguments.parse cleanOptions "--help" "config" rest)
    else .unknown command

end Invocation

/-! ## Running -/

/-- The cluster that answers about schemas. -/
def GenerateOptions.service (o : GenerateOptions) (s : Surroundings) : Except Failure Service :=
  Service.create (o.cluster.getD "") ((o.token.or s.token).getD "") (.double o.timeout)

/-- Exactly one of a cluster and a snapshot must be given. -/
def GenerateOptions.catalog (o : GenerateOptions) (s : Surroundings) (d : Disk) :
    Except Failure Catalog :=
  match o.snapshot, given o.cluster with
  | some _, some _ => .error (.ofField "snapshot" .twoCatalogs)
  | some file, none => (Snapshot.ofFile d file).map (·.catalog)
  | none, none => .error (.ofField "source" .noCatalog)
  | none, some _ => (o.service s).map (·.catalog s.respond)

/-- Generates what a configuration in a file asks for. -/
def GenerateOptions.run (o : GenerateOptions) (s : Surroundings) : Run Unit := do
  let config := (← Run.load (Config.ofFile · o.config)).override o.overrides
  let catalog ← Run.load (o.catalog s)
  let summary ← Generation.run { catalog, types := {}, now := s.now } config
  Run.note (.announced "")
  Run.note (.announced ("Generated " ++ toString summary.modelPaths.length ++ " model(s) from " ++
    toString config.databases.length ++ " database(s)"))
  match summary.contextPath with
  | some p => Run.note (.announced ("Context: " ++ p.text))
  | none => return

/-- Removes what a configuration in a file says was generated. -/
def CleanOptions.run (o : CleanOptions) : Run Unit := do
  let (config, folder) ← Generation.completed (← Run.load (Config.ofFile · o.config))
  Run.note (.announced "Cleaning generated output...")
  let bytes ← Cleaning.cleanOutput o.dry folder config.contextFile
  Run.note (.announced "")
  Run.note (.announced ((if o.dry then "Would free: " else "Freed: ") ++ sizeText bytes))
  if o.dry then
    Run.note (.announced "")
    Run.note (.announced "Run without --dry-run to actually clean.")

def Ending.ofResult : Except Failure Unit → Ending
  | .ok () => .exit 0 ""
  | .error (.data f) => .crash f
  | .error f => .exit 1 ("Error: " ++ f.message ++ "\n")

/-- What is said about all commands. -/
def helpLines : List String :=
  ["", "Kusto ORM generator CLI.", "", "Usage:", "    python -m kusto_ormgen <command> [options]", "",
    "Commands:", "    generate    Generate C# models and a DbContext from Kusto schemas",
    "    clean       Remove previously generated output", "", "Examples:",
    "    python -m kusto_ormgen generate ormgen.yaml --snapshot schema.yaml",
    "    python -m kusto_ormgen generate ormgen.yaml --cluster https://help.kusto.windows.net --clean",
    "    python -m kusto_ormgen clean ormgen.yaml --dry-run", "", "Available commands:"] ++
  commands.map (fun c => "  " ++ c.1 ++ String.ofList (List.replicate (13 - c.1.length) ' ') ++ c.2) ++
  ["", "Use '<command> --help' for command-specific options."]

def unknownLines (command : String) : List String :=
  ["Unknown command: " ++ command, "Available commands: " ++ ", ".intercalate (commands.map (·.1))]

/-- The options of one command. -/
def usageLines (command : String) : List String :=
  let options := if command = "clean" then cleanOptions else generateOptions
  ["usage: " ++ command ++ " [options] config", "", "options:"] ++ options.map fun o =>
    "  " ++ ", ".intercalate o.names ++
      match o.operand with
      | .nothing => ""
      | .text => " TEXT"
      | .number => " NUMBER"

def announceAll (lines : List String) : Run Unit := lines.forM fun line => Run.note (.announced line)

namespace Invocation

/-- What a command does, and the code that it ends with if nothing fails. -/
def program (s : Surroundings) : Invocation → Run Unit
  | .help => announceAll helpLines
  | .usage command => announceAll (usageLines command)
  | .unknown command => announceAll (unknownLines command)
  | .misuse _ => return
  | .generate o => o.run s
  | .clean o => o.run

def ending (i : Invocation) (result : Except Failure Unit) : Ending :=
  match i with
  | .misuse m => .exit 2 ("error: " ++ m.text ++ "\n")
  | .unknown _ => .exit 1 ""
  | _ => .ofResult result

/-- Runs a command on a disk. -/
def run (i : Invocation) (s : Surroundings) (d : Disk) : Ending × Journal :=
  let (result, journal) := (i.program s).run.run { disk := d, events := [] }
  (i.ending result, journal)

/-- The requests that a run has sent, in order. -/
def requests (i : Invocation) (s : Surroundings) (j : Journal) : List Request :=
  match i with
  | .generate o =>
    match o.service s with
    | .ok service => j.calls.reverse.map service.request
    | .error _ => []
  | _ => []

end Invocation
end EntityGen
