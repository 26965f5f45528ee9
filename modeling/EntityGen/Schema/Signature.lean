import EntityGen.Failure
import EntityGen.Text.Blank

/-! Parameter lists of functions, such as `(a:int, b:string)`. -/

namespace EntityGen

structure Parameter where
  name : String
  type : String
  deriving DecidableEq, Inhabited

namespace Signature

open Text

/-- The text between the parentheses, each of which may be missing. -/
def body (raw : List Char) : List Char :=
  let s := trim raw
  let s := if s.head? = some '(' then s.drop 1 else s
  if s.getLast? = some ')' then s.dropLast else s

/-- The type of a parameter ends where a default value begins. -/
def typeOf (s : List Char) : List Char := trim ((trim s).takeWhile (· ≠ '='))

/-- One colon stands between a name and a type, and neither is blank. -/
def parameter? (item : List Char) : Option Parameter :=
  match item.splitOn ':' with
  | [name, type] =>
    if name.all isBlank || type.all isBlank then none
    else some ⟨String.ofList (trim name), String.ofList (typeOf type)⟩
  | _ => none

/-- The items between commas that are not blank. -/
def items (raw : List Char) : List (List Char) :=
  ((body raw).splitOn ',').filter fun item => !item.all isBlank

def parse? (raw : String) : Option (List Parameter) :=
  (items raw.toList).mapM parameter?

/-- The parameters of a function of a database. -/
def parse (function raw : String) (database : Option String) : Except Failure (List Parameter) :=
  match parse? raw with
  | some ps => .ok ps
  | none => .error (.signature function raw database)

end Signature
end EntityGen
