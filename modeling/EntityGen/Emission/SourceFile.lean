import EntityGen.Text.Lines

/-! A generated file: header, using directives, namespace, and the declaration of one type. -/

namespace EntityGen

/-- Everything of a file but the declaration in it. -/
structure FileFrame where
  «namespace» : String
  usings : List String
  nullable : Bool
  /-- The namespace holds for the whole file instead of a block. -/
  fileScoped : Bool
  deriving DecidableEq

namespace FileFrame

/-- A namespace as a using directive; what starts like a directive is one. -/
def directive (name : String) : String :=
  if "using".toList.isPrefixOf name.toList then name else "using " ++ name ++ ";"

/-- Each directive once, where it comes first; neither blank names nor the file's own namespace. -/
def directives (usings : List String) (own : String) : List String :=
  ((usings.filter fun u => u ≠ "" && u ≠ own).map directive).eraseDups

def linesOf (ls : List String) : String := String.join (ls.map (· ++ "\n"))

/-- The lines in front of the blank line before the namespace. -/
def header (f : FileFrame) : List String :=
  ["// <auto-generated> This file has been auto generated by kusto_ormgen. </auto-generated>",
    "#pragma warning disable IDE1006 // Naming Styles"] ++
  (if f.nullable then ["#nullable enable"] else []) ++ directives f.usings f.namespace

/-- The declaration without the line feeds at its end. -/
def bodyOf (declaration : String) : List Char := Text.dropEnd (· = '\n') declaration.toList

/-- The text of the file. A block is indented. -/
def text (f : FileFrame) (declaration : String) : String :=
  let body := bodyOf declaration
  linesOf f.header ++ "\n" ++
    if f.fileScoped then
      "namespace " ++ f.namespace ++ ";\n\n" ++ String.ofList body ++ "\n"
    else
      "namespace " ++ f.namespace ++ "\n\x7b\n" ++ String.ofList (Text.indent body) ++ "\n\x7d\n"

end FileFrame
end EntityGen
