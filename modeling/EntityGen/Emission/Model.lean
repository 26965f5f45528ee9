import EntityGen.Emission.SourceFile
import EntityGen.Schema.Table
import EntityGen.Schema.TypeMap

/-! The class of a table or a function: one property for each column. -/

namespace EntityGen

namespace Model

/-- The line that declares a property. -/
def property (type name : String) : String :=
  "    public virtual " ++ type ++ " " ++ name ++ " \x7b get; set; \x7d"

/-- Columns keep their order, and equal names stay twice. -/
def declaration (m : TypeMap) (nullable : Bool) (name : String) (columns : List Column) : String :=
  FileFrame.linesOf <|
    ["public partial class " ++ name, "\x7b"] ++
      columns.map (fun c => property (m.columnType c.type nullable) c.name) ++ ["\x7d"]

/-- The text of the file of a model. -/
def text (m : TypeMap) (frame : FileFrame) (name : String) (columns : List Column) : String :=
  frame.text (declaration m frame.nullable name columns)

/-- The name of the file of a model. -/
def fileName (name : String) : String := name ++ ".cs"

end Model
end EntityGen
