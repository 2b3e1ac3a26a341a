import Sqlwright.Schema.Sketch

/-! Statements that create, alter, rename and drop tables. Every alteration is a statement of
its own. Default dates and times take the layout of the column type, or their own where it has
none. Only a foreign key has a reference. -/
namespace Sqlwright

namespace Piece

def options (text : String) : List Piece := if text.isEmpty then [] else [.text " ", .text text]

def columnList (names : List String) : List Piece := .text " " :: enclosed (fields ", " names)

def tableGuard (table check : String) : List Piece :=
  [.text "IF OBJECT_ID('", .field table, .text "', 'U') ", .text check, .text " "]

end Piece

namespace NativeType

def sizeText (type : NativeType) : String :=
  if type.size = 0 then ""
  else
    let scale := if type.scale = 0 then "" else "," ++ toString type.scale
    "(" ++ toString type.size ++ scale ++ ")"

end NativeType

namespace Column

def momentSketch (layout : Layout) (moment : Moment) (value : Value) : Sketch :=
  match layout.format? moment with
  | some text => .of [.quoted text]
  | none => .stopped [] (.unprintable value layout)

def defaultSketch (layout? : Option Layout) (value : Value) : Sketch :=
  match value with
  | .date d => momentSketch (layout?.getD .date) d.moment value
  | .time t => momentSketch (layout?.getD .time) t.moment value
  | .dateTime dt => momentSketch (layout?.getD .dateTime) dt.moment value
  | .offsetDateTime dt => momentSketch (layout?.getD .dateTime) dt.moment value
  | .int _ | .float _ => .of [.text value.document.text]
  | _ => .of [.value value]

def flags (column : Column) : List Piece :=
  (if column.unique then [.text " UNIQUE"] else []) ++
  (if column.required then [.text " NOT NULL"] else []) ++
  (if column.primary then [.text " PRIMARY KEY"] else [])

def sketch (mapper : ColumnMapper) (column : Column) : Sketch :=
  let type := mapper column
  .of ([.field column.name, .text " ", .text type.name, .text type.sizeText] ++ column.flags) ++
  (match column.default? with
    | some value => .of [.text " DEFAULT "] ++ defaultSketch type.layout? value
    | none => .empty) ++
  .of (Piece.options column.options)

end Column

def KeyKind.sql : KeyKind → String
  | .primary => "PRIMARY KEY"
  | .unique => "UNIQUE"
  | .foreign => "FOREIGN KEY"

namespace Reference

def action (event action : String) : List Piece :=
  if action.isEmpty then [] else [.text event, .text action]

def pieces (reference : Reference) : List Piece :=
  [.text " REFERENCES ", .field reference.table] ++
  Piece.columnList reference.columns ++
  action " ON DELETE " reference.onDelete ++
  action " ON UPDATE " reference.onUpdate

end Reference

namespace Key

def referencePieces (key : Key) : List Piece :=
  match key.kind, key.reference? with
  | .foreign, some reference => reference.pieces
  | _, _ => []

def pieces (key : Key) : List Piece :=
  (if key.name.isEmpty then [] else [.text "CONSTRAINT ", .field key.name, .text " "]) ++
  [.text key.kind.sql] ++
  Piece.columnList key.columns ++
  key.referencePieces ++
  Piece.options key.options

end Key

namespace Definition

def sketch (mapper : ColumnMapper) : Definition → Sketch
  | .column c => c.sketch mapper
  | .key k => .of k.pieces
  | .raw sql => .of [.text sql]

def changeSketch (mapper : ColumnMapper) (table : String) : Definition → Sketch
  | .column c =>
      match c.operation with
      | .create => .of [.text "ADD "] ++ c.sketch mapper
      | .drop => .of [.text "DROP COLUMN ", .field c.name]
      | .alter | .rename => .stopped [] (.rejected (.columnAlteration c.name table))
  | .key k =>
      match k.operation with
      | .create => .of (.text "ADD " :: k.pieces)
      | operation => .stopped [] (.rejected (.keyOperation operation k.name table))
  | .raw sql => .of [.text sql]

def renamed? : Definition → Option Column
  | .column c => if c.operation = .rename then some c else none
  | _ => none

def renamePieces (table : String) (c : Column) : List Piece :=
  [.text "EXEC sp_rename '", .field table, .text ".", .field c.name, .text "', ",
   .field c.rename, .text ", 'COLUMN';"]

def alterSketch (mapper : ColumnMapper) (table : Table) (definition : Definition) : Sketch :=
  match definition.renamed? with
  | some c => .of (renamePieces table.name c)
  | none =>
      .of [.text "ALTER TABLE ", .field table.name, .text " "] ++
      definition.changeSketch mapper table.name ++
      .of (Piece.options table.options ++ [.text ";"])

end Definition

namespace Table

def createSketch (mapper : ColumnMapper) (table : Table) : Sketch :=
  .of ((if table.optional then Piece.tableGuard table.name "IS NULL" else []) ++
    [.text "CREATE TABLE ", .field table.name]) ++
  (if table.definitions.isEmpty then .empty
    else .of [.text " ("] ++ .separated ", " (table.definitions.map (·.sketch mapper)) ++
      .of [.text ")"]) ++
  .of (Piece.options table.options ++ [.text ";"])

def alterSketch (mapper : ColumnMapper) (table : Table) : Sketch :=
  .all (table.definitions.map (·.alterSketch mapper table))

def renamePieces (table : Table) : List Piece :=
  [.text "EXEC sp_rename ", .field table.name, .text ", ", .field table.rename, .text ";"]

def dropPieces (table : Table) : List Piece :=
  (if table.optional then Piece.tableGuard table.name "IS NOT NULL" else []) ++
  [.text "DROP TABLE ", .field table.name, .text ";"]

def sketch (mapper : ColumnMapper) (table : Table) : Sketch :=
  match table.operation with
  | .create => table.createSketch mapper
  | .alter => table.alterSketch mapper
  | .rename => .of table.renamePieces
  | .drop => .of table.dropPieces

end Table

end Sqlwright
