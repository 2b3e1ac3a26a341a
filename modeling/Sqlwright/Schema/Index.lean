import Sqlwright.Query.Pieces
import Sqlwright.Schema.Table

/-! Statements that create and drop indexes. A unique index leaves out the rows where one of its
columns is null, so several rows may omit the key. -/
namespace Sqlwright.Index

def absenceGuard (index : Index) : List Piece :=
  [.text "IF NOT EXISTS (SELECT 1 FROM sys.indexes WHERE name = ", .quoted index.name,
   .text " AND object_id = OBJECT_ID('", .field index.table, .text "')) "]

def presencePieces (columns : List String) : List Piece :=
  Piece.separated " AND " (columns.map fun column => [.field column, .text " IS NOT NULL"])

def createPieces (index : Index) : List Piece :=
  (if index.optional then index.absenceGuard else []) ++
  [.text "CREATE "] ++
  (if index.unique then [.text "UNIQUE NONCLUSTERED "] else []) ++
  [.text "INDEX ", .field index.name, .text " ON ", .field index.table] ++
  Piece.columnList index.columns ++
  Piece.clause " WHERE " (!index.unique) (presencePieces index.columns) ++
  Piece.clause (if index.unique then " AND " else " WHERE ") index.filter.isEmpty
    index.filter.pieces

def dropPieces (index : Index) : List Piece :=
  [.text "DROP INDEX "] ++
  (if index.optional then [.text "IF EXISTS "] else []) ++
  [.field index.name, .text " ON ", .field index.table]

def ended (index : Index) (pieces : List Piece) : Sketch :=
  .of (pieces ++ Piece.options index.options ++ [.text ";"])

def sketch (index : Index) : Sketch :=
  match index.operation with
  | .create => index.ended index.createPieces
  | .drop => index.ended index.dropPieces
  | operation => .stopped [] (.rejected (.indexOperation operation index.name index.table))

end Sqlwright.Index
