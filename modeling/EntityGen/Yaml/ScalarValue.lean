import EntityGen.Text.Base64
import EntityGen.Value
import EntityGen.Yaml.Tag

/-! The values of scalars. -/

namespace EntityGen.Yaml

open EntityGen.Calendar EntityGen.Number

/-- A value, or why something in the document has none. -/
abbrev Reckoning := Except DataFault

def ofOption {α : Type} (fault : DataFault) : Option α → Reckoning α
  | some a => .ok a
  | none => .error fault

def isMinus (s : List Char) : Bool := s.head? = some '-'

/-- The number of which these are the digits to the base sixty. -/
def sexagesimal (digits : List Int) : Int := digits.foldl (· * 60 + ·) 0

/-- A whole number without low lines and without the first sign. -/
def intOfBody : List Char → Reckoning Int
  | [] => .error .noDigits
  | '0' :: 'b' :: rest => ofOption .notScalar (intOfBase? 2 rest)
  | '0' :: 'x' :: rest => ofOption .notScalar (intOfBase? 16 rest)
  | '0' :: rest => ofOption .notScalar (intOfBase? 8 ('0' :: rest))
  | body =>
    ofOption .notScalar <|
      if body.contains ':' then ((body.splitOn ':').mapM int?).map sexagesimal else int? body

def intValue (s : List Char) : Reckoning Int := do
  let s := s.filter (· ≠ '_')
  let n ← intOfBody (afterSign s)
  return if isMinus s then -n else n

/-- The sum of digits to the base sixty, the last one first. What a digit counts is itself rounded, and
at some place it is too large. -/
def sexagesimalSum (sum : Double) (base : Nat) : List Double → Reckoning Double
  | [] => .ok sum
  | d :: rest =>
    match Double.ofNat base with
    | .infinite _ => .error .numberTooLarge
    | b => sexagesimalSum (sum.add (d.mul b)) (base * 60) rest

def infinityWord : List Char := ".inf".toList

def nanWord : List Char := ".nan".toList

/-- A number without low lines, in small letters. -/
def floatText (s : List Char) : List Char := (s.filter (· ≠ '_')).map Char.toLower

def floatOfBody (body : List Char) : Reckoning Double :=
  if body = infinityWord then .ok (.infinite false)
  else if body = nanWord then .ok .nan
  else if body.contains ':' then do
    let parts ← ofOption .notScalar ((body.splitOn ':').mapM Double.parse?)
    sexagesimalSum .zero 1 parts.reverse
  else ofOption .notScalar (Double.parse? body)

def floatValue (s : List Char) : Reckoning Double := do
  let s := floatText s
  if s.isEmpty then throw .noDigits
  let x ← floatOfBody (afterSign s)
  return if isMinus s then x.neg else x

/-- The first six digits of a fraction of a second. -/
def microseconds (fraction : List Char) : Nat :=
  (readDigits 10 0 ((fraction ++ List.replicate 6 '0').take 6)).getD 0

def Instant.value? (i : Instant) : Option Value := do
  let date ← Date.ofFields? i.year i.month i.day
  match i.time with
  | none => return .date date
  | some (hour, minute, second, fraction) =>
    let time ← ClockTime.ofFields? hour minute second (microseconds fraction)
    if i.offset.all fun o => -1440 < o && o < 1440 then return .time ⟨date, time⟩ i.offset else none

def timestampValue (s : List Char) : Reckoning Value := do
  let i ← ofOption .notTimestamp (Instant.ofText? (withoutLineEnd s))
  ofOption .notScalar i.value?

def boolValue (s : List Char) : Reckoning Bool :=
  let word := String.ofList (s.map Char.toLower)
  if trueWords.contains word then .ok true
  else if falseWords.contains word then .ok false
  else .error .unknownWord

/-- The value of a scalar of a kind. Only a text can have halves of surrogate pairs. -/
def Tag.scalarValue (t : Tag) (codes : List Nat) : Except Fault Value :=
  let s := Text.charsOf codes
  match t with
  | .null => .ok .null
  | .bool => ((boolValue s).map .bool).mapError .data
  | .int => ((intValue s).map .int).mapError .data
  | .float => ((floatValue s).map .double).mapError .data
  | .timestamp => (timestampValue s).mapError .data
  | .text => .ok (.ofCodes codes)
  | .binary =>
    if s.all (·.toNat < 128) then
      match Text.decodeBase64 s with
      | some data => .ok (.bytes data)
      | none => .error .malformed
    else .error .malformed
  | .list | .pairs | .map | .set | .merge | .value | .unknown _ => .error .malformed

end EntityGen.Yaml
