import EntityGen.Failure
import EntityGen.Number.Numeral
import EntityGen.Number.Shortest
import EntityGen.Text.Quoted
import EntityGen.Value

/-! The text of a value. -/

namespace EntityGen.Value

open Calendar

/-- A moment as a call: what is zero at the end of the time is left out. -/
def timeCall (clock : LocalTime) (offset : Option Int) : String :=
  let d := clock.date
  let t := clock.time
  let tail :=
    if t.microsecond ≠ 0 then [t.second, t.microsecond]
    else if t.second ≠ 0 then [t.second]
    else []
  let zone := match offset with
    | none => ""
    | some o =>
      let span :=
        if o < 0 then "days=-1, seconds=" ++ toString (o * 60 + 86400) else "seconds=" ++ toString (o * 60)
      ", tzinfo=datetime.timezone" ++
        if o = 0 then ".utc" else "(datetime.timedelta(" ++ span ++ "))"
  "datetime.datetime(" ++
    ", ".intercalate (([d.year, d.month, d.day, t.hour, t.minute] ++ tail).map toString) ++ zone ++ ")"

def dateCall (d : Date) : String :=
  "datetime.date(" ++ ", ".intercalate ([d.year, d.month, d.day].map toString) ++ ")"

/-- One byte between quotes of the form `quote`. -/
def escapeByte (quote : Char) (b : UInt8) : List Char :=
  if 0x80 ≤ b.toNat then '\\' :: 'x' :: Text.hexDigits 2 b.toNat
  else Text.escapeChar quote (Char.ofNat b.toNat)

def bytesText (data : List UInt8) : String :=
  let quote := Text.quoteFor (data.map fun b => Char.ofNat b.toNat)
  String.ofList ('b' :: quote :: (data.flatMap (escapeByte quote) ++ [quote]))

/-- A text with halves of surrogate pairs between quotes. -/
def quotedHalves (codes : List Nat) : List Char :=
  let quote := Text.quoteFor (Text.charsOf codes)
  let escaped (n : Nat) : List Char :=
    if n.isValidChar then Text.escapeChar quote (Text.charOf n) else '\\' :: 'u' :: Text.hexDigits 4 n
  quote :: (codes.flatMap escaped ++ [quote])

/-- A whole number has a text unless there are too many digits. -/
def intText? (n : Int) : Option String :=
  if Number.digitLimit < (toString n.natAbs).length then none else some (toString n)

def dots (isMap : Bool) : String := if isMap then "\x7b...\x7d" else "[...]"

/-- Whether it is a mapping, of which a knot is made. -/
def isMap : Value → Bool
  | .map _ => true
  | _ => false

mutual

/-- A value as it stands inside a list or a mapping: texts are quoted. Inside a knot with a
number in `outer` the same knot is left out. -/
def shownIn (outer : List Nat) : Value → Option String
  | .null => some "None"
  | .bool b => some (if b then "True" else "False")
  | .int n => intText? n
  | .double x => some x.shortest
  | .text s => some (String.ofList (Text.quoted s.toList))
  | .halves codes => some (String.ofList (quotedHalves codes))
  | .list items => do return "[" ++ ", ".intercalate (← itemsIn outer items) ++ "]"
  | .map entries => do return "\x7b" ++ ", ".intercalate (← entriesIn outer entries) ++ "\x7d"
  | .pair a b => do return "(" ++ (← shownIn outer a) ++ ", " ++ (← shownIn outer b) ++ ")"
  | .set items => do
    if items.isEmpty then return "set()"
    else return "\x7b" ++ ", ".intercalate (← itemsIn outer items) ++ "\x7d"
  | .date d => some (dateCall d)
  | .time clock offset => some (timeCall clock offset)
  | .bytes data => some (bytesText data)
  | .knot n whole => if outer.contains n then some (dots whole.isMap) else shownIn (n :: outer) whole
  | .around _ isMap => some (dots isMap)

def itemsIn (outer : List Nat) : List Value → Option (List String)
  | [] => some []
  | v :: rest => do return (← shownIn outer v) :: (← itemsIn outer rest)

def entriesIn (outer : List Nat) : List (Value × Value) → Option (List String)
  | [] => some []
  | e :: rest => do return (← entryIn outer e) :: (← entriesIn outer rest)

def entryIn (outer : List Nat) : Value × Value → Option String
  | (k, v) => do return (← shownIn outer k) ++ ": " ++ (← shownIn outer v)

end

/-- The text of a value inside another one; a number may be too long for it. -/
def shown? (v : Value) : Option String := shownIn [] v

/-- A value where a text is expected: a text stands for itself. -/
def toText : Value → Except Failure String
  | .text s => .ok s
  | .halves codes => .ok (String.ofList (Text.charsOf codes))
  | .date d => .ok d.text
  | .time clock offset => .ok (clock.text ++ (offset.map offsetText).getD "")
  | v =>
    match v.shown? with
    | some s => .ok s
    | none => .error (.data .numberTooLong)

@[simp] theorem toText_text (s : String) : (Value.text s).toText = .ok s := rfl

end EntityGen.Value
