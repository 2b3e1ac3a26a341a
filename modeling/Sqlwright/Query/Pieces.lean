import Sqlwright.Query.Basic

/-! The pieces that queries and filters are written from. Filters with nothing to write leave
no trace; a junction of several written filters stands in parentheses. A query asks for its
first rows where it skips none, and for a window otherwise, which needs an order. As a statement
of its own a structured query ends with a semicolon, and a raw one is taken as it stands. -/
namespace Sqlwright

def Comparison.sql : Comparison → String
  | .equal => "="
  | .unequal => "<>"
  | .less => "<"
  | .lessEqual => "<="
  | .greater => ">"
  | .greaterEqual => ">="

def Piece.grouped (word : String) (parts : List (List Piece)) : List Piece :=
  let body := separated word parts
  if 1 < parts.length then enclosed body else body

def Piece.clause (word : String) (absent : Bool) (body : List Piece) : List Piece :=
  if absent then [] else .text word :: body

def Operand.lead : Operand → List Piece
  | .led lead _ => [.text lead]
  | _ => []

namespace Filter

/-- A query on its own is the whole list, and a word before it has no meaning there. -/
def operandList (operands : List Operand) (bodies : List (List Piece)) : List Piece :=
  match operands with
  | [.query _] | [.led ..] => bodies.flatten
  | _ => Piece.enclosed (Piece.separated "," (List.zipWith (·.lead ++ ·) operands bodies))

def amongPieces (field : String) (operands : List Operand) (bodies : List (List Piece))
    (negated : Bool) : List Piece :=
  if operands.isEmpty then [.text (if negated then "1=1" else "1=0")]
  else
    .field field :: .text (if negated then " NOT IN " else " IN ") :: operandList operands bodies

end Filter

namespace Query

def selectPieces (fields : List String) (distinct : Bool) (limit offset : Nat) : List Piece :=
  [.text "SELECT"] ++
  (if distinct then [.text " DISTINCT"] else []) ++
  (if 0 < limit ∧ offset = 0 then [.text (" TOP " ++ toString limit)] else []) ++
  (if fields.isEmpty then [.text " *"] else .text " " :: Piece.fields ", " fields)

def tablePieces (table : String) : List Piece :=
  if table.isEmpty then [] else [.text " FROM ", .field table]

def sortPieces (key : SortKey) : List Piece :=
  [.field key.field, .text (if key.ascending then " ASC" else " DESC")]

def orderPieces (sorts : List SortKey) (offset : Nat) : List Piece :=
  if sorts.isEmpty then (if 0 < offset then [.text " ORDER BY 1 ASC"] else [])
  else .text " ORDER BY " :: Piece.separated "," (sorts.map sortPieces)

def windowPieces (limit offset : Nat) : List Piece :=
  if offset = 0 then []
  else
    .text (" OFFSET " ++ toString offset ++ " ROWS") ::
      if 0 < limit then [.text (" FETCH NEXT " ++ toString limit ++ " ROWS ONLY")] else []

def lockPieces : Option String → List Piece
  | some lock => if lock.isEmpty then [] else [.text " ", .text lock]
  | none => []

def rawPieces (statement : Statement) : List Piece :=
  [.text statement.sql, .arguments statement.arguments]

end Query

def Join.piecesWith (mode table source target : String) (arguments : List Value)
    (unfiltered : Bool) (condition : List Piece) : List Piece :=
  let linked := !source.isEmpty && !target.isEmpty
  [.text " ", .text mode, .arguments arguments] ++
  if table.isEmpty then []
  else
    [.text " ", .field table] ++
    (if linked then [.text " ON ", .field source, .text "=", .field target] else []) ++
    Piece.clause (if linked then " AND " else " ON ") unfiltered condition

mutual

def Filter.pieces : Filter → List Piece
  | .and children => Piece.grouped " AND " (Filter.writtenParts children)
  | .or children => Piece.grouped " OR " (Filter.writtenParts children)
  | .not children =>
      Piece.clause "NOT " (Filter.allEmpty children)
        (Piece.grouped " AND " (Filter.writtenParts children))
  | .compare field comparison operand =>
      .field field :: .text comparison.sql :: operand.lead ++ operand.body
  | .null field negated => [.field field, .text (if negated then " IS NOT NULL" else " IS NULL")]
  | .among field operands negated =>
      Filter.amongPieces field operands (Operand.bodies operands) negated
  | .like field pattern negated =>
      [.field field, .text (if negated then " NOT LIKE " else " LIKE "), .value pattern]
  | .fragment sql values => [.text sql, .arguments values]
termination_by structural filter => filter

def Filter.writtenParts : List Filter → List (List Piece)
  | [] => []
  | child :: rest =>
      if child.isEmpty then Filter.writtenParts rest else child.pieces :: Filter.writtenParts rest
termination_by structural children => children

def Operand.body : Operand → List Piece
  | .value value => [.value value]
  | .query query => Piece.enclosed query.pieces
  | .led _ query => Piece.enclosed query.pieces
termination_by structural operand => operand

def Operand.bodies : List Operand → List (List Piece)
  | [] => []
  | operand :: rest => operand.body :: Operand.bodies rest
termination_by structural operands => operands

def Join.pieces : Join → List Piece
  | ⟨mode, table, source, target, arguments, filter⟩ =>
      Join.piecesWith mode table source target arguments filter.isEmpty filter.pieces
termination_by structural join => join

def Join.allPieces : List Join → List Piece
  | [] => []
  | join :: rest => join.pieces ++ Join.allPieces rest
termination_by structural joins => joins

def Query.pieces : Query → List Piece
  | ⟨table, fields, distinct, joins, filter, groupFields, having, sorts, limit, offset, lock?,
      raw?⟩ =>
      match raw?.filter (!·.sql.isEmpty) with
      | some statement => Query.rawPieces statement
      | none =>
          Query.selectPieces fields distinct limit offset ++
          Query.tablePieces table ++
          Join.allPieces joins ++
          Piece.clause " WHERE " filter.isEmpty filter.pieces ++
          Piece.clause " GROUP BY " groupFields.isEmpty (Piece.fields "," groupFields ++
            Piece.clause " HAVING " having.isEmpty having.pieces) ++
          Query.orderPieces sorts offset ++
          Query.windowPieces limit offset ++
          Query.lockPieces lock?
termination_by structural query => query

end

def Query.statementPieces (query : Query) : List Piece :=
  query.pieces ++ if query.statement?.isSome then [] else [.text ";"]

end Sqlwright
