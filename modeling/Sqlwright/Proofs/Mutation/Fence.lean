import Sqlwright.Mutation
import Sqlwright.Proofs.Query.Fence

/-! The literals of statements that change rows: a comma or a parenthesis stands behind every
cell, and a comma, a blank or the semicolon behind every assignment. -/
namespace Sqlwright

namespace Piece

theorem fencedValues (items : List Value) : Fenced (values items) := by
  refine fencedSeparated rfl fun part listed => ?_
  obtain ⟨item, -, rfl⟩ := List.mem_map.mp listed
  exact fencedOne (.value item)

theorem plainColumns (names : List String) : isPlain (columns names) = true := by
  unfold columns
  split
  · rfl
  · exact plainEnclosed (plainFields "," names)

theorem plainOutput (primary : String) : isPlain (output primary) = true := by
  unfold output
  split <;> rfl

theorem fencedNumbering (brought : Bool) (table : String) {statement : List Piece}
    (fenced : Fenced statement) : Fenced (numbering brought table statement) := by
  unfold numbering
  split
  · rw [List.append_assoc]
    exact fencedAppend (fencedBehind rfl fenced) rfl (fencedPlain rfl)
  · exact fenced

end Piece

theorem Insert.fencedPieces (insert : Insert) : Piece.Fenced insert.pieces := by
  have row : Piece.Fenced (if insert.changes.settings.isEmpty then [.text " DEFAULT VALUES"]
      else .text " VALUES " ::
        Piece.enclosed (Piece.values (insert.changes.settings.map (·.2)))) := by
    split
    · exact Piece.fencedPlain rfl
    · exact Piece.fencedText " VALUES " (Piece.fencedEnclosed (Piece.fencedValues _))
  have lead : Piece.isPlain ([.text "INSERT INTO ", .field insert.table] ++
      Piece.columns (insert.changes.settings.map (·.1)) ++ Piece.output insert.primary) = true :=
    Piece.plainAppend (Piece.plainColumns _) (Piece.plainOutput insert.primary)
  exact Piece.fencedNumbering _ _
    (Piece.fencedAppend (Piece.fencedBehind lead row) rfl (Piece.fencedPlain rfl))

namespace BulkInsert

theorem fencedTuple (fields : List String) (row : Changes) :
    Piece.Fenced (tuple fields row) := by
  refine Piece.fencedEnclosed (Piece.fencedSeparated rfl fun part listed => ?_)
  obtain ⟨field, -, rfl⟩ := List.mem_map.mp listed
  exact Piece.fencedOne (cell row field)

theorem fencedRows (insert : BulkInsert) : Piece.Fenced insert.rowPieces := by
  unfold rowPieces
  split
  · exact Piece.fencedPlain rfl
  · refine Piece.fencedText " VALUES " (Piece.fencedSeparated rfl fun part listed => ?_)
    obtain ⟨row, -, rfl⟩ := List.mem_map.mp listed
    exact fencedTuple insert.fields row

theorem fencedPieces (insert : BulkInsert) : Piece.Fenced insert.pieces := by
  have lead : Piece.isPlain ([.text "INSERT INTO ", .field insert.table] ++
      Piece.columns insert.fields ++ Piece.output insert.primary) = true :=
    Piece.plainAppend (Piece.plainColumns _) (Piece.plainOutput insert.primary)
  exact Piece.fencedNumbering _ _
    (Piece.fencedAppend (Piece.fencedBehind lead insert.fencedRows) rfl (Piece.fencedPlain rfl))

end BulkInsert

namespace Update

theorem fencedAssignment (entry : String × Change) : Piece.Fenced (assignment entry) := by
  obtain ⟨column, change⟩ := entry
  cases change with
  | set value =>
    exact Piece.fencedField column (Piece.fencedText "=" (Piece.fencedOne (.value value)))
  | increase value =>
    exact Piece.fencedField column (Piece.fencedText "=" (Piece.fencedField column
      (Piece.fencedText "+" (Piece.fencedOne (.value value)))))
  | fragment values => exact Piece.fencedPlain rfl

theorem fencedPieces (update : Update) : Piece.Fenced update.pieces := by
  have assignments : Piece.Fenced (Piece.separated ","
      ((update.changes.assigned update.primary).map assignment)) := by
    refine Piece.fencedSeparated rfl fun part listed => ?_
    obtain ⟨entry, -, rfl⟩ := List.mem_map.mp listed
    exact fencedAssignment entry
  have lead := Piece.fencedText "UPDATE " (Piece.fencedField update.table
    (Piece.fencedText " SET " assignments))
  have filtered := Piece.fencedAppend lead (Piece.opensClause rfl _ _)
    (Piece.fencedClause " WHERE " update.filter.isEmpty update.filter.fencedPieces)
  exact Piece.fencedAppend filtered rfl (Piece.fencedPlain rfl)

end Update

theorem Delete.fencedPieces (delete : Delete) : Piece.Fenced delete.pieces := by
  have filtered := Piece.fencedText "DELETE FROM " (Piece.fencedField delete.table
    (Piece.fencedClause " WHERE " delete.filter.isEmpty delete.filter.fencedPieces))
  exact Piece.fencedAppend filtered rfl (Piece.fencedPlain rfl)

end Sqlwright
