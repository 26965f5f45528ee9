import EntityGen.Path

/-! Why something cannot be done, and the words for it. -/

namespace EntityGen

/-- Why a file system refuses. -/
inductive Refusal
  | missing
  | exists
  | notDirectory
  | isDirectory
  | notEmpty
  | nameTooLong
  | tooManyLinks
  deriving DecidableEq, Inhabited

def Refusal.number : Refusal → Nat
  | .missing => 2
  | .exists => 17
  | .notDirectory => 20
  | .isDirectory => 21
  | .nameTooLong => 36
  | .notEmpty => 39
  | .tooManyLinks => 40

def Refusal.text : Refusal → String
  | .missing => "No such file or directory"
  | .exists => "File exists"
  | .notDirectory => "Not a directory"
  | .isDirectory => "Is a directory"
  | .notEmpty => "Directory not empty"
  | .nameTooLong => "File name too long"
  | .tooManyLinks => "Too many levels of symbolic links"

/-- What is wrong with a configuration, or with a snapshot that is configured. -/
inductive ConfigurationFault
  | ruleShape
  | rulePattern
  | ruleKind (kind : String)
  | pattern (reason : String)
  | notRules
  | notPath
  | notText
  | notMapping
  | notDatabase
  | databaseName
  | notList
  | notFlag
  | notTexts
  | required
  | requiredWithoutNamespace
  | requiredWithoutFolder
  | noDatabases
  | unreadable (refusal : Refusal) (quotedPath : String)
  | document (reason : String)
  | rootShape
  | noFile (path : String)
  | twoCatalogs
  | noCatalog
  | stated (message : String)
  deriving DecidableEq, Inhabited

/-- The kinds of rule, in the order in which they are offered. -/
def ruleKinds : List String := ["glob", "regex", "exact", "prefix", "suffix", "contains"]

def ConfigurationFault.text : ConfigurationFault → String
  | .ruleShape => "filter rule must be a string or mapping"
  | .rulePattern => "filter rule is missing 'pattern'"
  | .ruleKind kind =>
    "unknown filter kind '" ++ kind ++ "' (expected one of " ++ ", ".intercalate ruleKinds ++ ")"
  | .pattern reason => "invalid regex: " ++ reason
  | .notRules => "must be a list of filter rules"
  | .notPath => "must be a non-empty path string"
  | .notText => "must be a string"
  | .notMapping => "must be a mapping"
  | .notDatabase => "must be a database name or mapping"
  | .databaseName => "database is missing 'name'"
  | .notList => "must be a list"
  | .notFlag => "must be true or false"
  | .notTexts => "must be a list of strings"
  | .required => "is required"
  | .requiredWithoutNamespace => "is required when 'namespace' is not set"
  | .requiredWithoutFolder => "is required when 'context_folder' is not set"
  | .noDatabases => "snapshot must provide a 'databases' mapping"
  | .unreadable refusal quotedPath =>
    "Failed to read file: [Errno " ++ toString refusal.number ++ "] " ++ refusal.text ++ ": " ++ quotedPath
  | .document reason => "Invalid YAML: " ++ reason
  | .rootShape => "Root must be a mapping"
  | .noFile path => "Config file '" ++ path ++ "' does not exist"
  | .twoCatalogs => "cannot be combined with --cluster"
  | .noCatalog => "either --cluster or --snapshot is required"
  | .stated message => message

/-- What is wrong with an answer about schemas. -/
inductive TransportFault
  | timedOut
  | unreachable (cluster : String)
  | status (code : Option Nat)
  | notJson
  | request (reason : String)
  | noTables
  | tableShape
  | missingColumns (names : List String)
  | unknownDatabase
  | tablesShape
  | tableColumns (table : String)
  | functionsShape
  | functionShape (index : Nat)
  | functionColumns (function : String)
  | unknownFunction (function : String)
  | stated (message : String)
  deriving DecidableEq, Inhabited

def TransportFault.text : TransportFault → String
  | .timedOut => "Request timed out"
  | .unreachable cluster => "Failed to connect to " ++ cluster
  | .status code => "HTTP " ++ (code.map toString).getD "?"
  | .notJson => "Response is not valid JSON"
  | .request reason => "Request failed: " ++ reason
  | .noTables => "Response has no result tables"
  | .tableShape => "Result table has an unexpected shape"
  | .missingColumns names => "Result is missing column(s) " ++ ", ".intercalate names
  | .unknownDatabase => "Database not found in snapshot"
  | .tablesShape => "Snapshot 'tables' must be a mapping"
  | .tableColumns table => "Snapshot columns of table '" ++ table ++ "' must be a mapping"
  | .functionsShape => "Snapshot 'functions' must be a list"
  | .functionShape index => "Snapshot function #" ++ toString index ++ " must be a mapping with a 'name'"
  | .functionColumns function => "Snapshot columns of function '" ++ function ++ "' must be a mapping"
  | .unknownFunction function => "Function '" ++ function ++ "' not found in snapshot"
  | .stated message => message

/-- What a file system was asked for in vain. -/
inductive FilesystemFault
  | removeFile (refusal : Refusal)
  | removeDirectory (refusal : Refusal)
  | createDirectory (refusal : Refusal)
  | writeFile (refusal : Refusal)
  | stated (message : String)
  deriving DecidableEq, Inhabited

def FilesystemFault.text : FilesystemFault → String
  | .removeFile r => "Failed to remove file (" ++ r.text ++ ")"
  | .removeDirectory r => "Failed to remove directory (" ++ r.text ++ ")"
  | .createDirectory r => "Failed to create directory (" ++ r.text ++ ")"
  | .writeFile r => "Failed to write file (" ++ r.text ++ ")"
  | .stated message => message

/-- Data that no configuration or schema can be blamed for: it has no value at all. -/
inductive DataFault
  | nulInPath
  | notUtf8
  /-- A scalar has the form of its kind, but there is no such value. -/
  | notScalar
  /-- A scalar is none of the words for a truth value. -/
  | unknownWord
  /-- A scalar that should be a timestamp has another form. -/
  | notTimestamp
  /-- A mapping stands for the text of a timestamp. -/
  | timestampInMapping
  /-- A number is written without any digits. -/
  | noDigits
  /-- A mapping stands for the text of itself. -/
  | endlessText
  /-- Parts are nested in each other too deeply. -/
  | tooDeep
  | outsideCalendar
  | numberTooLarge
  | numberTooLong
  | repetitionTooLarge
  | codeTooLarge
  | conflictingAlphabets
  | refused (refusal : Refusal)
  | endlessLinks
  deriving DecidableEq, Inhabited

def DataFault.text : DataFault → String
  | .nulInPath => "embedded null character"
  | .notUtf8 => "text is not UTF-8"
  | .notScalar => "scalar has no value"
  | .unknownWord => "scalar is neither true nor false"
  | .notTimestamp => "scalar is no timestamp"
  | .timestampInMapping => "mapping is no timestamp"
  | .noDigits => "number has no digits"
  | .endlessText => "mapping stands for itself"
  | .tooDeep => "nesting is too deep"
  | .outsideCalendar => "date is outside of the calendar"
  | .numberTooLarge => "number is too large"
  | .numberTooLong => "number has too many digits"
  | .repetitionTooLarge => "repetition is too large"
  | .codeTooLarge => "code point is too large"
  | .conflictingAlphabets => "two alphabets at once"
  | .refused r => r.text
  | .endlessLinks => "links lead back to themselves"

/-- A failure with what it concerns. -/
inductive Failure
  | general (message : String) (database : Option String)
  | configuration (fault : ConfigurationFault) (field database : Option String)
  | transport (fault : TransportFault) (database query : Option String)
  | filesystem (fault : FilesystemFault) (path : String)
  | signature (function parameters : String) (database : Option String)
  | data (fault : DataFault)
  deriving DecidableEq, Inhabited

/-- An empty text counts as missing. -/
def given : Option String → Option String
  | some "" | none => none
  | some s => some s

/-- The database goes in front of a message. -/
def withDatabase (database : Option String) (message : String) : String :=
  match given database with
  | some d => "[" ++ d ++ "] " ++ message
  | none => message

namespace Failure

def message : Failure → String
  | .general message database => withDatabase database message
  | .configuration fault field database =>
    withDatabase database <| match given field with
      | some f => "Config '" ++ f ++ "': " ++ fault.text
      | none => fault.text
  | .transport fault database query =>
    withDatabase database <| match given query with
      | some q => fault.text ++ " (query: " ++ q ++ ")"
      | none => fault.text
  | .filesystem fault path => fault.text ++ ": " ++ path
  | .signature function parameters database =>
    withDatabase database
      ("Cannot parse parameters '" ++ parameters ++ "' of function '" ++ function ++ "'")
  | .data fault => fault.text

def database : Failure → Option String
  | .general _ d | .configuration _ _ d | .transport _ d _ | .signature _ _ d => d
  | .filesystem _ _ | .data _ => none

/-- A fault of one field of the configuration. -/
def ofField (field : String) (fault : ConfigurationFault) : Failure :=
  .configuration fault (some field) none

/-- Whether the configuration is to blame. -/
def isConfiguration : Failure → Bool
  | .configuration _ _ _ => true
  | _ => false

end Failure
end EntityGen
