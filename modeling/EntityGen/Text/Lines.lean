import EntityGen.Text.Blank

/-! Lines of a text and their indentation. -/

namespace EntityGen.Text

/-- The lines of a text of which `line` has been read, backwards. A carriage return and the line
feed behind it end one line together. -/
def linesFrom (line : List Char) : List Char → List (List Char)
  | [] => if line.isEmpty then [] else [line.reverse]
  | '\r' :: '\n' :: rest => line.reverse :: linesFrom [] rest
  | c :: rest =>
    if isLineEnd c then line.reverse :: linesFrom [] rest else linesFrom (c :: line) rest

/-- The lines of a text without their ends; a line end at the very end starts no further line. -/
def lines (s : List Char) : List (List Char) := linesFrom [] s

/-- What indentation puts in front of a line. -/
def margin : List Char := [' ', ' ', ' ', ' ']

/-- Empty lines stay empty, the first one excepted. -/
def indentLines : List (List Char) → List (List Char)
  | [] => []
  | first :: rest =>
    (margin ++ first) :: rest.map fun line => if line.isEmpty then line else margin ++ line

/-- The text with its lines indented and joined by line feeds. -/
def indent (s : List Char) : List Char :=
  ['\n'].intercalate (indentLines (lines (s ++ ['\n'])))

end EntityGen.Text
