import EntityGen.Number.Numeral
import EntityGen.Text.Quoted

/-! Arguments of a command line: options, which start with a dash, and texts that stand for themselves. -/

namespace EntityGen

/-- What an option is followed by. -/
inductive Operand
  | nothing
  | text
  | number
  deriving DecidableEq

structure OptionSpec where
  /-- All spellings, the short ones first. -/
  names : List String
  operand : Operand
  deriving DecidableEq

def OptionSpec.label (o : OptionSpec) : String := "/".intercalate o.names

/-- The name that an option is known by. -/
def OptionSpec.key (o : OptionSpec) : String := o.names.getLast?.getD ""

/-- What a single argument is by itself. -/
inductive ArgumentClass
  | plain
  /-- Everything behind the separator is plain. -/
  | separator
  | option (o : OptionSpec) (operand : Option String)
  | unknownOption
  deriving DecidableEq

/-- Why arguments make no sense. -/
inductive Misuse
  | ambiguous (argument : String) (candidates : List String)
  | superfluousOperand (o : OptionSpec) (operand : String)
  | missingOperand (o : OptionSpec)
  | badNumber (o : OptionSpec) (operand : String)
  | missing (name : String)
  | unrecognized (arguments : List String)
  deriving DecidableEq

def quotedText (s : String) : String := String.ofList (Text.quoted s.toList)

def Misuse.text : Misuse → String
  | .ambiguous argument candidates =>
    "ambiguous option: " ++ argument ++ " could match " ++ ", ".intercalate candidates
  | .superfluousOperand o operand =>
    "argument " ++ o.label ++ ": ignored explicit argument " ++ quotedText operand
  | .missingOperand o => "argument " ++ o.label ++ ": expected one argument"
  | .badNumber o operand => "argument " ++ o.label ++ ": invalid float value: " ++ quotedText operand
  | .missing name => "the following arguments are required: " ++ name
  | .unrecognized arguments => "unrecognized arguments: " ++ " ".intercalate arguments

namespace Arguments

/-- The two sides of the first equals sign. -/
def cutAtEquals (s : String) : String × Option String :=
  let (before, after) := Number.cutAt (· = '=') s.toList
  (String.ofList before, after.map String.ofList)

def find? (os : List OptionSpec) (name : String) : Option OptionSpec := os.find? (·.names.contains name)

/-- The options with a name that starts like this, in order, by name. -/
def candidates (os : List OptionSpec) (start : String) : List (OptionSpec × String) :=
  os.flatMap fun o => (o.names.filter (·.startsWith start)).map (o, ·)

/-- A dash with digits, or with a point and digits, is a number. -/
def isNegativeNumber (s : List Char) : Bool :=
  match s with
  | '-' :: body =>
    let isDigit (c : Char) : Bool := (Text.digitValue? c).isSome
    match body.dropWhile isDigit with
    | [] => !body.isEmpty
    | '.' :: fraction => !fraction.isEmpty && fraction.all isDigit
    | _ => false
  | _ => false

/-- Flags of one letter may be written together behind one dash. What is left behind the last of them is
its operand. -/
def joinedFlags (os : List OptionSpec) (o : OptionSpec) : List Char → ArgumentClass
  | [] => .option o none
  | c :: rest =>
    match find? os (String.ofList ['-', c]) with
    | some next =>
      if o.operand = .nothing then joinedFlags os next rest else .option o (some (String.ofList (c :: rest)))
    | none => .option o (some (String.ofList (c :: rest)))

/-- An option with an equals sign behind its name. -/
def withOperand (os : List OptionSpec) (name : String) (o : OptionSpec) (operand : String) : ArgumentClass :=
  if name.startsWith "--" || operand.isEmpty then .option o (some operand)
  else joinedFlags os o operand.toList

/-- An argument that starts with a dash but names no option as it is. A long option may be cut short. -/
def classifyOther (os : List OptionSpec) (s : String) : Except Misuse ArgumentClass :=
  let found : List (String × ArgumentClass) :=
    if s.startsWith "--" then
      let (start, operand) := cutAtEquals s
      (candidates os start).map fun (o, name) => (name, .option o operand)
    else
      let short := String.ofList (s.toList.take 2)
      ((find? os short).toList.map fun o => (short, joinedFlags os o (s.toList.drop 2))) ++
        (candidates os s).map fun (o, name) => (name, .option o none)
  match found with
  | [(_, c)] => .ok c
  | [] => .ok (if isNegativeNumber s.toList || s.contains ' ' then .plain else .unknownOption)
  | several => .error (.ambiguous s (several.map (·.1)))

/-- An option may have its operand behind an equals sign. -/
def classify (os : List OptionSpec) (s : String) : Except Misuse ArgumentClass :=
  if !s.startsWith "-" || s = "-" then .ok .plain
  else match find? os s, cutAtEquals s with
    | some o, _ => .ok (.option o none)
    | none, (name, some operand) =>
      match find? os name with
      | some o => .ok (withOperand os name o operand)
      | none => classifyOther os s
    | none, (_, none) => classifyOther os s

def classifyAll (os : List OptionSpec) : List String → Except Misuse (List (String × ArgumentClass))
  | [] => .ok []
  | s :: rest =>
    if s = "--" then .ok ((s, .separator) :: rest.map (·, .plain))
    else do return (s, ← classify os s) :: (← classifyAll os rest)

/-- What was found so far. -/
structure Found where
  /-- The text that stands for itself. -/
  subject : Option String := none
  /-- The options, each by its last name, with their operands in order. -/
  options : List (String × String) := []
  extras : List String := []

def Found.has (f : Found) (name : String) : Bool := f.options.any (·.1 = name)

/-- The last operand of an option. -/
def Found.operand? (f : Found) (name : String) : Option String :=
  (f.options.reverse.find? (·.1 = name)).map (·.2)

def Found.add (f : Found) (o : OptionSpec) (operand : String) : Found :=
  { f with options := f.options ++ [(o.key, operand)] }

def Found.addExtra (f : Found) (s : String) : Found := { f with extras := f.extras ++ [s] }

def checkOperand (o : OptionSpec) (operand : String) : Except Misuse Unit :=
  if o.operand = .number && (Number.Double.parse? operand.toList).isNone then
    .error (.badNumber o operand)
  else .ok ()

/-- Goes through the arguments in order; `stop` is the option at which nothing more is looked at. -/
def collect (os : List OptionSpec) (stop : String) (f : Found) :
    List (String × ArgumentClass) → Except Misuse Found
  | [] => .ok f
  | (s, .plain) :: (t, .separator) :: rest =>
    if f.subject.isSome then collectRest (f.addExtra s |>.addExtra t) rest
    else collectRest { f with subject := some s } rest
  | (s, .plain) :: rest =>
    if f.subject.isSome then collect os stop (f.addExtra s) rest
    else collect os stop { f with subject := some s } rest
  | (s, .separator) :: rest =>
    match f.subject, rest with
    | none, (t, _) :: rest => collectRest { f with subject := some t } rest
    | _, _ => collectRest (f.addExtra s) rest
  | (s, .unknownOption) :: rest => collect os stop (f.addExtra s) rest
  | (_, .option o (some operand)) :: rest =>
    if o.operand = .nothing then .error (.superfluousOperand o operand)
    else do
      checkOperand o operand
      collect os stop (f.add o operand) rest
  | (_, .option o none) :: rest =>
    if o.operand = .nothing then
      let f := f.add o ""
      if o.key = stop then .ok f else collect os stop f rest
    else match rest with
      | (t, .plain) :: rest => do
        checkOperand o t
        collect os stop (f.add o t) rest
      | _ => .error (.missingOperand o)
where
  /-- Behind the separator everything is plain. -/
  collectRest (f : Found) (rest : List (String × ArgumentClass)) : Except Misuse Found :=
    .ok { f with extras := f.extras ++ rest.map (·.1) }

/-- Reads arguments, of which exactly one, called `name`, stands for itself. -/
def parse (os : List OptionSpec) (stop name : String) (args : List String) : Except Misuse Found := do
  let f ← collect os stop {} (← classifyAll os args)
  if f.has stop then return f
  else if f.subject.isNone then throw (.missing name)
  else if f.extras.isEmpty then return f
  else throw (.unrecognized f.extras)

end Arguments
end EntityGen
