import EntityGen.Number.Numeral
import EntityGen.Value

/-! Reading JSON. Besides the standard there are `NaN`, `Infinity` and `-Infinity`, and of equal names
in an object the last one counts. -/

namespace EntityGen.Json

open Number

def isSpace (c : Char) : Bool := c = ' ' || c = '\t' || c = '\n' || c = '\r'

def skipSpace (s : List Char) : List Char := s.dropWhile isSpace

/-- The text behind `word`, if it starts with it. -/
def after? (word s : List Char) : Option (List Char) :=
  if word.isPrefixOf s then some (s.drop word.length) else none

/-- Four hexadecimal digits and what follows. -/
def hexUnit? (s : List Char) : Option (Nat × List Char) :=
  let ds := s.take 4
  if ds.length = 4 then return (← natOfDigits? 16 ds, s.drop 4) else none

def isHighSurrogate (n : Nat) : Bool := 0xD800 ≤ n && n < 0xDC00

def isLowSurrogate (n : Nat) : Bool := 0xDC00 ≤ n && n < 0xE000

/-- The code point of an escaped unit; a high surrogate takes a low one along. -/
def unicodeEscape? (s : List Char) : Option (Nat × List Char) := do
  let (high, rest) ← hexUnit? s
  match isHighSurrogate high, rest with
  | true, '\\' :: 'u' :: more =>
    match hexUnit? more with
    | some (low, rest') =>
      if isLowSurrogate low then return (0x10000 + (high - 0xD800) * 0x400 + (low - 0xDC00), rest')
      else return (high, rest)
    | none => return (high, rest)
  | _, _ => return (high, rest)

def simpleEscape? : Char → Option Char
  | '"' => some '"'
  | '\\' => some '\\'
  | '/' => some '/'
  | 'b' => some '\x08'
  | 'f' => some '\x0c'
  | 'n' => some '\n'
  | 'r' => some '\r'
  | 't' => some '\t'
  | _ => none

/-- The code points up to the closing quote; control characters must be escaped. -/
def characters : (fuel : Nat) → List Char → Option (List Nat × List Char)
  | 0, _ => none
  | _, [] => none
  | _, '"' :: rest => some ([], rest)
  | fuel + 1, '\\' :: 'u' :: rest => do
    let (c, rest) ← unicodeEscape? rest
    let (cs, rest) ← characters fuel rest
    return (c :: cs, rest)
  | fuel + 1, '\\' :: e :: rest => do
    let c ← simpleEscape? e
    let (cs, rest) ← characters fuel rest
    return (c.toNat :: cs, rest)
  | fuel + 1, c :: rest => do
    if c.toNat < 0x20 || c = '\\' then none
    let (cs, rest) ← characters fuel rest
    return (c.toNat :: cs, rest)

/-- A fraction, if a digit follows the point. -/
def fraction : List Char → List Char × List Char
  | '.' :: d :: rest =>
    if d.isDigit then ((d :: rest).takeWhile Char.isDigit, (d :: rest).dropWhile Char.isDigit)
    else ([], '.' :: d :: rest)
  | s => ([], s)

/-- An exponent, if there is a digit in it. -/
def power (s : List Char) : Option (Int × List Char) :=
  match s with
  | e :: rest =>
    if e = 'e' || e = 'E' then
      let (negative, ds) := takeSign rest
      match ds.takeWhile Char.isDigit with
      | [] => none
      | digits =>
        let n := (natOfDigits? 10 digits).getD 0
        some (if negative then -(n : Int) else n, ds.dropWhile Char.isDigit)
    else none
  | [] => none

/-- A number without superfluous zeros in front. -/
def number? (s : List Char) : Option (Value × List Char) := do
  let (negative, body) := match s with
    | '-' :: rest => (true, rest)
    | _ => (false, s)
  let whole := if body.head? = some '0' then ['0'] else body.takeWhile Char.isDigit
  if whole.isEmpty then none
  let rest := body.drop whole.length
  let n ← natOfDigits? 10 whole
  let (fs, rest) := fraction rest
  match power rest, fs with
  | none, [] =>
    if digitLimit < whole.length then none
    return (.int (if negative then -(n : Int) else n), rest)
  | p, fs =>
    let exponent := (p.map (·.1)).getD 0
    let digits := ofDigits 10 ((whole ++ fs).map fun c => c.toNat - '0'.toNat)
    return (.double (Double.ofDecimal negative digits (exponent - fs.length)), (p.map (·.2)).getD rest)

/-- The values that are words, and numbers. -/
def atom? (s : List Char) : Option (Value × List Char) :=
  let word (w : String) (v : Value) : Option (Value × List Char) := (after? w.toList s).map (v, ·)
  word "null" .null <|> word "true" (.bool true) <|> word "false" (.bool false) <|>
    word "NaN" (.double .nan) <|> word "Infinity" (.double (.infinite false)) <|>
    word "-Infinity" (.double (.infinite true)) <|> number? s

/-- Why a text holds no value. -/
inductive Fault
  | malformed
  | tooDeep
  deriving DecidableEq

/-- How many containers may be open at once. -/
def depthLimit : Nat := 980

def ofOption {α : Type} : Option α → Except Fault α
  | some a => .ok a
  | none => .error .malformed

mutual

/-- A value without space around it, in which so many containers may be open at once. -/
def value : (fuel depth : Nat) → List Char → Except Fault (Value × List Char)
  | 0, _, _ => throw .malformed
  | _ + 1, _, '"' :: rest => do
    let (cs, rest) ← ofOption (characters (rest.length + 1) rest)
    return (.ofCodes cs, rest)
  | _ + 1, 0, '[' :: _ | _ + 1, 0, '\x7b' :: _ => throw .tooDeep
  | fuel + 1, depth + 1, '[' :: rest =>
    match skipSpace rest with
    | ']' :: rest => return (.list [], rest)
    | rest => do
      let (vs, rest) ← items fuel depth rest
      return (.list vs, rest)
  | fuel + 1, depth + 1, '\x7b' :: rest =>
    match skipSpace rest with
    | '\x7d' :: rest => return (.map [], rest)
    | rest => do
      let (es, rest) ← members fuel depth [] rest
      return (.map es, rest)
  | _, _, s => ofOption (atom? s)

/-- Values between commas up to the closing bracket. -/
def items : (fuel depth : Nat) → List Char → Except Fault (List Value × List Char)
  | 0, _, _ => throw .malformed
  | fuel + 1, depth, s => do
    let (v, rest) ← value fuel depth s
    match skipSpace rest with
    | ']' :: rest => return ([v], rest)
    | ',' :: rest =>
      let (vs, rest) ← items fuel depth (skipSpace rest)
      return (v :: vs, rest)
    | _ => throw .malformed

/-- Named values between commas up to the closing brace, bound after those that were read. -/
def members : (fuel depth : Nat) → List (Value × Value) → List Char →
    Except Fault (List (Value × Value) × List Char)
  | 0, _, _, _ => throw .malformed
  | fuel + 1, depth, done, '"' :: s => do
    let (name, rest) ← ofOption (characters (s.length + 1) s)
    match skipSpace rest with
    | ':' :: rest =>
      let (v, rest) ← value fuel depth (skipSpace rest)
      let done := Value.bind (.ofCodes name) v done
      match skipSpace rest with
      | '\x7d' :: rest => return (done, rest)
      | ',' :: rest => members fuel depth done (skipSpace rest)
      | _ => throw .malformed
    | _ => throw .malformed
  | _, _, _, _ => throw .malformed

end

/-- The value that a text holds. -/
def parse (s : String) : Except Fault Value := do
  let body := s.toList
  let (v, rest) ← value (2 * body.length + 2) depthLimit (skipSpace body)
  if (skipSpace rest).isEmpty then return v else throw .malformed

end EntityGen.Json
