import Sqlwright.Dialect

/-! A single insert as a bulk insert of one row. Asked for the columns that its row sets, in the
order of the row, the bulk insert is written from the same pieces: each of its cells has the value
that is set, and a number is brought exactly if one is set. -/
namespace Sqlwright

def Change.isSet (change : Change) : Bool := change.value?.isSome

namespace Changes

def setColumns (changes : Changes) : List String :=
  (changes.entries.filter fun entry => entry.2.isSet).map (·.1)

theorem settingsColumns (changes : Changes) :
    changes.settings.map (·.1) = changes.setColumns := by
  rw [settings, setColumns]
  induction changes.entries with
  | nil => rfl
  | cons entry rest ih =>
    obtain ⟨column, change⟩ := entry
    cases kind : change.value? with
    | none => simpa [kind, Change.isSet] using ih
    | some value => simpa [kind, Change.isSet] using ih

theorem memSettings {changes : Changes} {column : String} {value : Value} :
    (column, value) ∈ changes.settings ↔ changes.value? column = some value := by
  rw [settings, List.mem_filterMap, value?, Option.bind_eq_some_iff]
  constructor
  · rintro ⟨⟨name, change⟩, member, set⟩
    obtain ⟨found, here, same⟩ := Option.map_eq_some_iff.mp set
    cases same
    exact ⟨change, Keyed.findIff.mpr member, here⟩
  · rintro ⟨change, found, set⟩
    exact ⟨(column, change), Keyed.findIff.mp found, by simp [set]⟩

theorem memSetColumns {changes : Changes} {column : String} :
    column ∈ changes.setColumns ↔ (changes.value? column).isSome := by
  rw [← settingsColumns, List.mem_map, Option.isSome_iff_exists]
  constructor
  · rintro ⟨⟨name, value⟩, member, same⟩
    cases same
    exact ⟨value, memSettings.mp member⟩
  · rintro ⟨value, set⟩
    exact ⟨(column, value), memSettings.mpr set, rfl⟩

end Changes

namespace Insert

def inBulk (insert : Insert) : BulkInsert where
  table := insert.table
  primary := insert.primary
  fields := insert.changes.setColumns
  rows := [insert.changes]

theorem inBulkBrings (insert : Insert) : insert.inBulk.bringsNumbers = insert.bringsNumber := by
  have same : insert.changes.setColumns.contains insert.primary =
      (insert.changes.value? insert.primary).isSome := by
    rw [Bool.eq_iff_iff, List.contains_iff_mem, Changes.memSetColumns]
  simp only [BulkInsert.bringsNumbers, inBulk, bringsNumber, same]

theorem inBulkCells (insert : Insert) :
    insert.changes.setColumns.map (fun field => [BulkInsert.cell insert.changes field]) =
      (insert.changes.settings.map (·.2)).map fun value => [.value value] := by
  rw [← Changes.settingsColumns, List.map_map, List.map_map]
  refine List.map_congr_left fun setting member => ?_
  have set := Changes.memSettings.mp member
  simp only [Function.comp_apply, BulkInsert.cell, set]

theorem inBulkPieces (insert : Insert) : insert.inBulk.pieces = insert.pieces := by
  have none : insert.changes.setColumns.isEmpty = insert.changes.settings.isEmpty := by
    rw [← Changes.settingsColumns, List.isEmpty_map]
  have tuple : BulkInsert.tuple insert.changes.setColumns insert.changes =
      Piece.enclosed (Piece.values (insert.changes.settings.map (·.2))) := by
    rw [BulkInsert.tuple, inBulkCells, Piece.values]
  have row : insert.inBulk.rowPieces =
      if insert.changes.settings.isEmpty then [.text " DEFAULT VALUES"]
      else .text " VALUES " ::
        Piece.enclosed (Piece.values (insert.changes.settings.map (·.2))) := by
    simp only [BulkInsert.rowPieces, inBulk, none, List.map_singleton, tuple, Piece.separated,
      List.intercalate_singleton]
  rw [BulkInsert.pieces, row, inBulkBrings, pieces, Changes.settingsColumns]
  rfl

end Insert

theorem bulkOfOneRow (dialect : Dialect) (table primary : String) (changes : Changes) :
    dialect.insertAll ⟨table, primary, changes.setColumns, [changes]⟩ =
      dialect.insert ⟨table, primary, changes⟩ := by
  rw [Dialect.insertAll, Dialect.insert, ← Insert.inBulkPieces]
  rfl

end Sqlwright
