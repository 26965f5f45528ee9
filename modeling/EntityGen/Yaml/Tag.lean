import EntityGen.Yaml.Scalar

/-! What kind of value a node is. -/

namespace EntityGen.Yaml

open EntityGen.Number

inductive Tag
  | null
  | bool
  | int
  | float
  | binary
  | timestamp
  | text
  | list
  | pairs
  | map
  | set
  /-- The key of a mapping whose entries are taken over. -/
  | merge
  /-- The key of the entry that a mapping stands for. -/
  | value
  | unknown (name : String)
  deriving DecidableEq, Inhabited

/-- What the tags of the format start with. -/
def tagStart : String := "tag:yaml.org,2002:"

/-- The kinds of value by the names of their tags. -/
def tagNames : List (String × Tag) :=
  [("null", .null), ("bool", .bool), ("int", .int), ("float", .float), ("binary", .binary),
    ("timestamp", .timestamp), ("str", .text), ("seq", .list), ("omap", .pairs), ("pairs", .pairs),
    ("map", .map), ("set", .set), ("merge", .merge), ("value", .value)]

def Tag.ofName (name : String) : Tag :=
  ((tagNames.find? fun t => tagStart ++ t.1 = name).map (·.2)).getD (.unknown name)

/-! ## Plain scalars -/

def trueWords : List String := ["yes", "Yes", "YES", "true", "True", "TRUE", "on", "On", "ON"]

def falseWords : List String := ["no", "No", "NO", "false", "False", "FALSE", "off", "Off", "OFF"]

def nullWords : List String := ["", "~", "null", "Null", "NULL"]

def isDigitOrLine (c : Char) : Bool := c.isDigit || c = '_'

/-- The text after a sign, if there is one. -/
def afterSign : List Char → List Char
  | '+' :: rest | '-' :: rest => rest
  | s => s

/-- Whether every part is a number below sixty, of one or two digits. -/
def areSixtieths (parts : List (List Char)) : Bool :=
  parts.all fun p => match p with
    | [a] => a.isDigit
    | [a, b] => '0' ≤ a && a ≤ '5' && b.isDigit
    | _ => false

/-- Digits, of which the first is in a class, with low lines behind it. -/
def isNumeral (first : Char → Bool) : List Char → Bool
  | [] => false
  | c :: rest => first c && rest.all isDigitOrLine

def isHexDigitOrLine (c : Char) : Bool := (digitOf? c).any (· < 16) || c = '_'

/-- Binary, octal, decimal, hexadecimal, or to the base sixty. -/
def isInt (s : List Char) : Bool :=
  match afterSign s with
  | ['0'] => true
  | '0' :: 'b' :: rest => !rest.isEmpty && rest.all fun c => c = '0' || c = '1' || c = '_'
  | '0' :: 'x' :: rest => !rest.isEmpty && rest.all isHexDigitOrLine
  | '0' :: rest => rest.all fun c => ('0' ≤ c && c ≤ '7') || c = '_'
  | body =>
    match body.splitOn ':' with
    | first :: parts => isNumeral (fun c => '1' ≤ c && c ≤ '9') first && areSixtieths parts
    | [] => false

/-- An exponent has a sign. -/
def isExponent : List Char → Bool
  | e :: sign :: digits =>
    (e = 'e' || e = 'E') && (sign = '+' || sign = '-') && !digits.isEmpty && digits.all Char.isDigit
  | _ => false

/-- Digits and low lines, and an exponent if any. -/
def isFraction (s : List Char) : Bool :=
  let exponent := s.dropWhile isDigitOrLine
  exponent.isEmpty || isExponent exponent

/-- A number has a point. Digits in front of it may be to the base sixty; without any there is no sign. -/
def isFloat (s : List Char) : Bool :=
  let body := afterSign s
  if [".inf", ".Inf", ".INF"].contains (String.ofList body) then true
  else if [".nan", ".NaN", ".NAN"].contains (String.ofList s) then true
  else match s with
    | '.' :: first :: rest => first.isDigit && isFraction rest
    | _ =>
      let whole := body.takeWhile (· ≠ '.')
      match body.dropWhile (· ≠ '.'), whole.splitOn ':' with
      | _ :: fraction, [first] => isNumeral Char.isDigit first && isFraction fraction
      | _ :: fraction, first :: parts =>
        isNumeral Char.isDigit first && areSixtieths parts && fraction.all isDigitOrLine
      | _, _ => false

/-- The digits of a date and of a time of day, and the offset of a clock. -/
structure Instant where
  year : Nat
  month : Nat
  day : Nat
  /-- Hour, minute and second, and the digits of the fraction. -/
  time : Option (Nat × Nat × Nat × List Char) := none
  offset : Option Int := none

/-- A number of `least` to `most` digits. -/
def digits? (least most : Nat) (s : List Char) : Option (Nat × List Char) :=
  let run := (s.take most).takeWhile Char.isDigit
  if run.length < least then none
  else (natOfDigits? 10 run).map fun n => (n, s.drop run.length)

def after? (c : Char) : List Char → Option (List Char)
  | x :: rest => if x = c then some rest else none
  | [] => none

/-- An offset from UTC in minutes: `Z`, or a sign with hours and perhaps minutes. -/
def offset? : List Char → Option Int
  | ['Z'] => some 0
  | sign :: rest => do
    let minus ← if sign = '-' then some true else if sign = '+' then some false else none
    let (hours, rest) ← digits? 1 2 rest
    let minutes ← match rest with
      | [] => some 0
      | _ => do
        let (minutes, rest) ← digits? 2 2 (← after? ':' rest)
        if rest.isEmpty then some minutes else none
    let total : Int := hours * 60 + minutes
    return if minus then -total else total
  | [] => none

/-- What stands between a date and a time of day. -/
def afterDate? : List Char → Option (List Char)
  | c :: rest =>
    if c = 'T' || c = 't' then some rest
    else if isSpaceOrTab c then some (rest.dropWhile isSpaceOrTab)
    else none
  | [] => none

def Instant.ofText? (s : List Char) : Option Instant := do
  let (year, s) ← digits? 4 4 s
  let (month, s) ← digits? 1 2 (← after? '-' s)
  let (day, s) ← digits? 1 2 (← after? '-' s)
  if s.isEmpty then return { year, month, day }
  let (hour, s) ← digits? 1 2 (← afterDate? s)
  let (minute, s) ← digits? 2 2 (← after? ':' s)
  let (second, s) ← digits? 2 2 (← after? ':' s)
  let (fraction, s) := match s with
    | '.' :: rest => rest.span Char.isDigit
    | _ => ([], s)
  let time := some (hour, minute, second, fraction)
  if s.isEmpty then return { year, month, day, time }
  return { year, month, day, time, offset := some (← offset? (s.dropWhile isSpaceOrTab)) }

/-- A date alone has all its digits. -/
def isInstant (s : List Char) : Bool :=
  (Instant.ofText? s).any fun i => i.time.isSome || s.length = 10

/-- A line feed at the end of a text does not count for its form, unless it is the whole text. -/
def withoutLineEnd : List Char → List Char
  | [] => []
  | [c] => [c]
  | [c, '\n'] => [c]
  | c :: rest => c :: withoutLineEnd rest

/-- The kind of a plain scalar follows from its text. -/
def Tag.ofPlain (text : List Char) : Tag :=
  let s := withoutLineEnd text
  let word := String.ofList s
  if trueWords.contains word || falseWords.contains word then .bool
  else if isFloat s then .float
  else if isInt s then .int
  else if word = "<<" then .merge
  else if nullWords.contains word then .null
  else if isInstant s then .timestamp
  else if word = "=" then .value
  else if ["!", "&", "*"].contains word then .unknown (tagStart ++ "yaml")
  else .text

end EntityGen.Yaml
