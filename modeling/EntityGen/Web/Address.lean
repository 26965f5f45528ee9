import EntityGen.Number.Numeral
import EntityGen.Text.Case
import EntityGen.Web.Label

/-! Addresses of the web, and which of them a request can be sent to. -/

namespace EntityGen.Web

/-- What an address says between its scheme and its path. -/
structure Authority where
  /-- A name and a password. -/
  user : List Char
  host : List Char

namespace Authority

/-- The two sides of the last at sign. -/
def ofText (s : List Char) : Authority :=
  let host := (s.reverse.takeWhile (· ≠ '@')).reverse
  ⟨s.take (s.length - host.length - 1), host⟩

end Authority

def isHexDigit (c : Char) : Bool := (Number.digitOf? c).any (· < 16)

/-- The text behind the characters that a name of a host may have: all but a few marks, and bytes in
hexadecimal behind a percent sign. -/
def afterHostName : List Char → List Char
  | '%' :: a :: b :: rest => if isHexDigit a && isHexDigit b then afterHostName rest else '%' :: a :: b :: rest
  | c :: rest => if ['[', ']', '%', ':', '/', '?', '#'].contains c then c :: rest else afterHostName rest
  | [] => []

/-- Nothing, or a colon and a number of sixteen bits with any zeros in front; a line end at the end does
not count. -/
def isPort (s : List Char) : Bool :=
  match if s.getLast? = some '\n' then s.dropLast else s with
  | [] => true
  | ':' :: digits =>
    let digits := digits.dropWhile (· = '0')
    digits.length ≤ 5 && digits.all Char.isDigit && (Number.natOfDigits? 10 digits).all (· < 65536)
  | _ => false

/-! ## Addresses in brackets -/

/-- Four numbers of up to three digits with points between them. -/
def isFourNumbers (s : List Char) : Bool :=
  let parts := s.splitOn '.'
  parts.length = 4 && parts.all fun p => !p.isEmpty && p.length ≤ 3 && p.all Char.isDigit

/-- How many groups of sixteen bits a part without a double colon stands for. Only the last of them may be
written as four numbers. -/
def groups? (endsAddress : Bool) (s : List Char) : Option Nat :=
  if s.isEmpty then some 0
  else
    let parts := s.splitOn ':'
    let isGroup (p : List Char) : Bool := !p.isEmpty && p.length ≤ 4 && p.all isHexDigit
    match parts.getLast? with
    | some last =>
      if !parts.dropLast.all isGroup then none
      else if isGroup last then some parts.length
      else if endsAddress && isFourNumbers last then some (parts.length + 1)
      else none
    | none => none

/-- The two sides of the first double colon. -/
def cutAtDoubleColon : List Char → Option (List Char × List Char)
  | ':' :: ':' :: rest => some ([], rest)
  | c :: rest => (cutAtDoubleColon rest).map fun (before, after) => (c :: before, after)
  | [] => none

/-- Eight groups, or fewer with a double colon in the place of those that are missing. -/
def isLongAddress (s : List Char) : Bool :=
  match cutAtDoubleColon s with
  | none => groups? true s = some 8
  | some (before, after) =>
    match groups? false before, groups? true after with
    | some m, some n => m + n ≤ 7
    | _, _ => false

def isZoneChar (c : Char) : Bool := c.isAlphanum || ['.', '_', '-', '~'].contains c

/-- The name of a zone: plain characters, and bytes in hexadecimal behind a percent sign. -/
def isZoneName : List Char → Bool
  | [] => true
  | '%' :: a :: b :: rest => isHexDigit a && isHexDigit b && isZoneName rest
  | c :: rest => isZoneChar c && isZoneName rest

/-- Nothing, or a percent sign and a name. -/
def isZone : List Char → Bool
  | [] => true
  | '%' :: name => !name.isEmpty && isZoneName name
  | _ => false

def isBracketed (s : List Char) : Bool :=
  isLongAddress (s.takeWhile (· ≠ '%')) && isZone (s.dropWhile (· ≠ '%'))

/-! ## Hosts and users -/

/-- A label of ASCII alone is looked up whatever it is. -/
def isLabel (s : List Char) : Bool := s.all Punycode.isBasic || Label.isValid (Text.toLower s)

/-- A host has a name that starts neither with a star nor with a point. -/
def isHostName (s : List Char) : Bool :=
  !s.isEmpty && s.head? ≠ some '*' && s.head? ≠ some '.' && (s.splitOn '.').all isLabel

def isHost (s : List Char) : Bool :=
  match s with
  | '[' :: rest =>
    let inner := rest.takeWhile (· ≠ ']')
    isBracketed inner && (rest.drop inner.length).head? = some ']' && isPort (rest.drop (inner.length + 1))
  | _ =>
    let rest := afterHostName s
    isHostName (s.take (s.length - rest.length)) && isPort rest

/-- Whether every percent sign stands before two hexadecimal digits. -/
def escapesFit : List Char → Bool
  | '%' :: a :: b :: rest => isHexDigit a && isHexDigit b && escapesFit rest
  | '%' :: _ => false
  | _ :: rest => escapesFit rest
  | [] => true

/-- The bytes of a text in which bytes may be written in hexadecimal. -/
def unescapedBytes : List Char → List UInt8
  | '%' :: a :: b :: rest =>
    UInt8.ofNat ((Number.natOfDigits? 16 [a, b]).getD 0) :: unescapedBytes rest
  | c :: rest => (String.ofList [c]).toUTF8.toList ++ unescapedBytes rest
  | [] => []

/-- A name and a password are sent in bytes, one for each character. -/
def isUser (s : List Char) : Bool :=
  if s.contains ':' then
    let bytes := if escapesFit s then unescapedBytes s else (String.ofList s).toUTF8.toList
    match String.fromUTF8? ⟨bytes.toArray⟩ with
    | some t => t.toList.all (·.toNat < 256)
    | none => false
  else true

/-! ## Addresses -/

def schemes : List String := ["http", "https"]

/-- Whether a request can be sent to an address. Blanks in front of it do not count. -/
def isAddress (url : String) : Bool :=
  let s := url.toList.dropWhile Text.isBlank
  let scheme := s.takeWhile (· ≠ ':')
  match s.drop scheme.length with
  | ':' :: '/' :: '/' :: rest =>
    let a := Authority.ofText (rest.takeWhile fun c => !(['/', '\\', '?', '#'].contains c))
    schemes.contains (String.ofList (scheme.map Char.toLower)) && isHost a.host && isUser a.user
  | _ => false

/-- Whether a text can be the value of a header: no line ends in it, but for a line feed at its end. -/
def isHeaderValue (s : String) : Bool :=
  match s.toList with
  | [] => true
  | c :: rest =>
    let line := if rest.getLast? = some '\n' then rest.dropLast else rest
    !Text.isBlank c && !line.any fun c => c = '\n' || c = '\r'

end EntityGen.Web
