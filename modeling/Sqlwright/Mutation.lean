import Sqlwright.Query.Pieces

/-! Statements that change rows. An insert takes the columns that are set and leaves the others
to their defaults, and a bulk insert without columns is one row of defaults. A table that numbers
its rows itself is told when a row brings its own number. An update never assigns the primary
column; the name of a fragment is a whole assignment, and its values are bound to it. A delete
with an empty filter deletes every row. -/
namespace Sqlwright

inductive Change where
  | set (value : Value)
  | increase (value : Value)
  | fragment (values : List Value)

def Change.value? : Change → Option Value
  | .set value => some value
  | _ => none

abbrev Changes := Keyed Change

namespace Changes

def value? (changes : Changes) (column : String) : Option Value :=
  (changes.find? column).bind Change.value?

def settings (changes : Changes) : List (String × Value) :=
  changes.entries.filterMap fun (column, change) => change.value?.map fun value => (column, value)

def assigned (changes : Changes) (primary : String) : List (String × Change) :=
  changes.entries.filter fun entry => entry.1 != primary

def hasAssignments (changes : Changes) (primary : String) : Bool :=
  changes.keys.any (· != primary)

theorem hasAssignmentsIff {changes : Changes} {primary : String} :
    changes.hasAssignments primary = true ↔ changes.assigned primary ≠ [] := by
  simp [hasAssignments, assigned, Keyed.keys, List.filter_eq_nil_iff]

end Changes

namespace Piece

def identityInsert (table : String) (on : Bool) : List Piece :=
  [.text "SET IDENTITY_INSERT ", .field table, .text (if on then " ON;" else " OFF;")]

def numbering (brought : Bool) (table : String) (statement : List Piece) : List Piece :=
  if brought then
    identityInsert table true ++ [.text " "] ++ statement ++ [.text " "] ++
      identityInsert table false
  else statement

def output (primary : String) : List Piece :=
  if primary.isEmpty then [] else [.text " OUTPUT ", .field ("INSERTED." ++ primary)]

def columns (names : List String) : List Piece :=
  if names.isEmpty then [] else .text " " :: enclosed (fields "," names)

end Piece

structure Insert where
  table : String
  primary : String
  changes : Changes

namespace Insert

def bringsNumber (insert : Insert) : Bool :=
  !insert.primary.isEmpty && (insert.changes.value? insert.primary).isSome

def pieces (insert : Insert) : List Piece :=
  let settings := insert.changes.settings
  Piece.numbering insert.bringsNumber insert.table
    ([.text "INSERT INTO ", .field insert.table] ++
      Piece.columns (settings.map (·.1)) ++
      Piece.output insert.primary ++
      (if settings.isEmpty then [.text " DEFAULT VALUES"]
        else .text " VALUES " :: Piece.enclosed (Piece.values (settings.map (·.2)))) ++
      [.text ";"])

end Insert

structure BulkInsert where
  table : String
  primary : String
  fields : List String
  rows : List Changes

namespace BulkInsert

def bringsNumbers (insert : BulkInsert) : Bool :=
  !insert.primary.isEmpty && insert.fields.contains insert.primary

def cell (row : Changes) (field : String) : Piece :=
  match row.value? field with
  | some value => .value value
  | none => .text "DEFAULT"

def tuple (fields : List String) (row : Changes) : List Piece :=
  Piece.enclosed (Piece.separated "," (fields.map fun field => [cell row field]))

def rowPieces (insert : BulkInsert) : List Piece :=
  if insert.fields.isEmpty then [.text " DEFAULT VALUES"]
  else .text " VALUES " :: Piece.separated "," (insert.rows.map (tuple insert.fields))

def pieces (insert : BulkInsert) : List Piece :=
  Piece.numbering insert.bringsNumbers insert.table
    ([.text "INSERT INTO ", .field insert.table] ++
      Piece.columns insert.fields ++
      Piece.output insert.primary ++
      insert.rowPieces ++
      [.text ";"])

end BulkInsert

structure Update where
  table : String
  primary : String
  changes : Changes
  filter : Filter

namespace Update

def assignment : String × Change → List Piece
  | (column, .set value) => [.field column, .text "=", .value value]
  | (column, .increase value) =>
      [.field column, .text "=", .field column, .text "+", .value value]
  | (assignment, .fragment values) => [.text assignment, .arguments values]

def pieces (update : Update) : List Piece :=
  [.text "UPDATE ", .field update.table, .text " SET "] ++
  Piece.separated "," ((update.changes.assigned update.primary).map assignment) ++
  Piece.clause " WHERE " update.filter.isEmpty update.filter.pieces ++
  [.text ";"]

end Update

structure Delete where
  table : String
  filter : Filter

def Delete.pieces (delete : Delete) : List Piece :=
  [.text "DELETE FROM ", .field delete.table] ++
  Piece.clause " WHERE " delete.filter.isEmpty delete.filter.pieces ++
  [.text ";"]

end Sqlwright
