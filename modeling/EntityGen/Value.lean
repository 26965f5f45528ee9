import EntityGen.Calendar
import EntityGen.Number.Double
import EntityGen.Text.Codes

/-! The values that documents hold. -/

namespace EntityGen

open Calendar Number

/-- A value of a configuration, a snapshot or a response. A mapping keeps its entries in order. -/
inductive Value
  | null
  | bool (b : Bool)
  | int (n : Int)
  | double (x : Double)
  | text (s : String)
  /-- A text with halves of surrogate pairs, as code points. -/
  | halves (codes : List Nat)
  | list (items : List Value)
  | map (entries : List (Value × Value))
  | pair (first second : Value)
  | set (items : List Value)
  | date (d : Date)
  | time (clock : LocalTime) (offset : Option Int)
  | bytes (data : List UInt8)
  /-- A container that is a part of itself. -/
  | knot (number : Nat) (whole : Value)
  /-- The knot around this place that has the number. -/
  | around (number : Nat) (isMap : Bool)
  deriving Inhabited

namespace Value

/-- A text from its code points. -/
def ofCodes (codes : List Nat) : Value :=
  if Text.areChars codes then .text (String.ofList (Text.charsOf codes)) else .halves codes

/-! ## Knots -/

mutual

/-- Puts a knot where its number stands. -/
def untie (number : Nat) (knot : Value) : Value → Value
  | .around n isMap => if n = number then knot else .around n isMap
  | .knot n whole => if n = number then .knot n whole else .knot n (untie number knot whole)
  | .list items => .list (untieItems number knot items)
  | .map entries => .map (untieEntries number knot entries)
  | .pair a b => .pair (untie number knot a) (untie number knot b)
  | v => v

def untieItems (number : Nat) (knot : Value) : List Value → List Value
  | [] => []
  | v :: rest => untie number knot v :: untieItems number knot rest

def untieEntries (number : Nat) (knot : Value) : List (Value × Value) → List (Value × Value)
  | [] => []
  | e :: rest => untieEntry number knot e :: untieEntries number knot rest

def untieEntry (number : Nat) (knot : Value) : Value × Value → Value × Value
  | (k, v) => (untie number knot k, untie number knot v)

end

/-- A container whose parts can be looked at one by one. -/
def opened : Value → Value
  | .knot n whole => untie n (.knot n whole) whole
  | v => v

/-! ## What a value is -/

/-- Nothing, zero and whatever is empty count as false. -/
def truthy : Value → Bool
  | .null => false
  | .bool b => b
  | .int n => n ≠ 0
  | .double x => !x.isZero
  | .text s => !s.isEmpty
  | .halves codes => !codes.isEmpty
  | .list items => !items.isEmpty
  | .map entries => !entries.isEmpty
  | .set items => !items.isEmpty
  | .bytes data => !data.isEmpty
  | .knot _ whole => whole.truthy
  | .pair _ _ | .date _ | .time _ _ | .around _ _ => true

def text? : Value → Option String
  | .text s => some s
  | .halves codes => some (String.ofList (Text.charsOf codes))
  | _ => none

def items? (v : Value) : Option (List Value) :=
  match v.opened with
  | .list items => some items
  | _ => none

def entries? (v : Value) : Option (List (Value × Value)) :=
  match v.opened with
  | .map entries => some entries
  | _ => none

@[simp] theorem text?_text (s : String) : (Value.text s).text? = some s := rfl

@[simp] theorem items?_list (items : List Value) : (Value.list items).items? = some items := rfl

@[simp] theorem entries?_map (entries : List (Value × Value)) : (Value.map entries).entries? = some entries :=
  rfl

/-! ## Keys -/

/-- A container that can change is no key of a mapping. -/
def isKey : Value → Bool
  | .list _ | .map _ | .set _ | .knot _ _ | .around _ _ => false
  | _ => true

/-- The number that a key stands for: `true` is one and `1.0` is `1`. -/
def wholeNumber? : Value → Option Int
  | .bool b => some (if b then 1 else 0)
  | .int n => some n
  | .double x => x.toInt?
  | _ => none

/-- Clocks with offsets agree if they show the same instant, and clocks without if they show the same
time. -/
def sameTime (l : LocalTime) (o : Option Int) (m : LocalTime) (p : Option Int) : Bool :=
  match o, p with
  | some o, some p => l.instant o = m.instant p
  | none, none => l = m
  | _, _ => false

/-- Whether two keys of a mapping are the same one. -/
def sameKey : Value → Value → Bool
  | .null, .null => true
  | .text s, .text t => s = t
  | .halves c, .halves d => c = d
  | .date d, .date e => d = e
  | .bytes d, .bytes e => d = e
  | .time l o, .time m p => sameTime l o m p
  | .pair a b, .pair c d => sameKey a c && sameKey b d
  | a, b =>
    match a.wholeNumber?, b.wholeNumber?, a, b with
    | some m, some n, _, _ => m = n
    | none, none, .double x, .double y => x = y
    | _, _, _, _ => false

/-- Binds a key. A key that is there keeps its place and its spelling. -/
def bind (key value : Value) : List (Value × Value) → List (Value × Value)
  | [] => [(key, value)]
  | (k, v) :: rest => if k.sameKey key then (k, value) :: rest else (k, v) :: bind key value rest

def isNamed (name : String) : Value → Bool
  | .text s => s = name
  | _ => false

/-- The value bound to a text. -/
def lookup? (entries : List (Value × Value)) (name : String) : Option Value :=
  (entries.find? (·.1.isNamed name)).map (·.2)

/-- The value bound to a text, nothing at all counting as `null`. -/
def lookup (entries : List (Value × Value)) (name : String) : Value :=
  (lookup? entries name).getD .null

@[simp] theorem lookup?_nil (name : String) : lookup? [] name = none := rfl

end Value
end EntityGen
