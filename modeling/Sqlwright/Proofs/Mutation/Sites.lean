import Sqlwright.Mutation
import Sqlwright.Proofs.Query.Sites

/-! The values of statements that change rows. A single insert leaves everything unused that
is not set, and an update what is assigned to its primary column. A bulk insert takes its values
cell by cell, in the order of its fields. -/
namespace Sqlwright

namespace Change

def values : Change → List Value
  | .set value => [value]
  | .increase value => [value]
  | .fragment items => items

def setSites : Change → List Site
  | .set value => [⟨.placed, value⟩]
  | change => Site.unused (Site.loose change.values)

def sites : Change → List Site
  | .set value => [⟨.placed, value⟩]
  | .increase value => [⟨.placed, value⟩]
  | .fragment items => Site.loose items

theorem setSitesValues (change : Change) : change.setSites.map Site.value = change.values := by
  cases change <;> simp [setSites, values, Site.unused, Site.loose, Function.comp_def]

theorem sitesValues (change : Change) : change.sites.map Site.value = change.values := by
  cases change <;> simp [sites, values, Site.loose, Function.comp_def]

end Change

def Changes.values (changes : Changes) : List Value :=
  changes.entries.flatMap fun entry => entry.2.values

namespace Piece

theorem sitesValues (items : List Value) :
    allSites (values items) = items.map (⟨.placed, ·⟩) := by
  rw [values, sitesSeparated, List.flatMap_map]
  induction items with
  | nil => rfl
  | cons item rest ih =>
    rw [List.flatMap_cons, ih]
    rfl

theorem sitesColumns (names : List String) : allSites (columns names) = [] := by
  unfold columns
  split
  · rfl
  · rw [sitesText, sitesEnclosed, sitesFields]

theorem sitesOutput (primary : String) : allSites (output primary) = [] := by
  unfold output
  split <;> rfl

theorem sitesNumbering (brought : Bool) (table : String) (statement : List Piece) :
    allSites (numbering brought table statement) = allSites statement := by
  unfold numbering
  split
  · simp [identityInsert, allSites, sites]
  · rfl

end Piece

namespace Insert

def sites (insert : Insert) : List Site :=
  insert.changes.entries.flatMap fun entry => entry.2.setSites

theorem sitesValues (insert : Insert) : insert.sites.map Site.value = insert.changes.values := by
  simp only [sites, Changes.values, List.map_flatMap, Change.setSitesValues]

theorem boundSites (insert : Insert) :
    Site.bound insert.sites =
      insert.changes.settings.map fun setting => ⟨.placed, setting.2⟩ := by
  rw [sites, Changes.settings]
  induction insert.changes.entries with
  | nil => rfl
  | cons entry rest ih =>
    rw [List.flatMap_cons, Site.boundAppend, ih, List.filterMap_cons]
    obtain ⟨column, change⟩ := entry
    cases change with
    | set value => rfl
    | increase value => rfl
    | fragment items =>
      show Site.bound (Site.unused (Site.loose items)) ++ _ = _
      rw [Site.boundUnused]
      rfl

theorem sitesOfPieces (insert : Insert) :
    Piece.allSites insert.pieces = Site.bound insert.sites := by
  have row : Piece.allSites
      (if insert.changes.settings.isEmpty then [.text " DEFAULT VALUES"]
        else .text " VALUES " ::
          Piece.enclosed (Piece.values (insert.changes.settings.map (·.2)))) =
      insert.changes.settings.map fun setting => ⟨.placed, setting.2⟩ := by
    split
    · rename_i none
      rw [List.isEmpty_iff.mp none]
      rfl
    · rw [Piece.sitesText, Piece.sitesEnclosed, Piece.sitesValues, List.map_map]
      rfl
  rw [pieces, Piece.sitesNumbering, Piece.sitesAppend, Piece.sitesAppend, Piece.sitesAppend,
    Piece.sitesAppend, Piece.sitesColumns, Piece.sitesOutput, row, boundSites]
  simp [Piece.allSites, Piece.sites]

end Insert

namespace BulkInsert

def cells (insert : BulkInsert) : List Value :=
  insert.rows.flatMap fun row => insert.fields.filterMap row.value?

theorem sitesTuple (fields : List String) (row : Changes) :
    Piece.allSites (tuple fields row) = (fields.filterMap row.value?).map (⟨.placed, ·⟩) := by
  rw [tuple, Piece.sitesEnclosed, Piece.sitesSeparated, List.flatMap_map]
  induction fields with
  | nil => rfl
  | cons field rest ih =>
    rw [List.flatMap_cons, ih, List.filterMap_cons, cell]
    cases row.value? field <;> rfl

theorem sitesOfPieces (insert : BulkInsert) :
    Piece.allSites insert.pieces = insert.cells.map (⟨.placed, ·⟩) := by
  have rows : Piece.allSites insert.rowPieces = insert.cells.map (⟨.placed, ·⟩) := by
    unfold rowPieces
    split
    · rename_i none
      rw [cells, List.isEmpty_iff.mp none]
      simp [Piece.allSites, Piece.sites]
    · rw [Piece.sitesText, Piece.sitesSeparated, List.flatMap_map, cells, List.map_flatMap]
      simp only [sitesTuple]
  rw [pieces, Piece.sitesNumbering, Piece.sitesAppend, Piece.sitesAppend, Piece.sitesAppend,
    Piece.sitesAppend, Piece.sitesColumns, Piece.sitesOutput, rows]
  simp [Piece.allSites, Piece.sites]

end BulkInsert

namespace Update

def sites (update : Update) : List Site :=
  (update.changes.entries.flatMap fun entry =>
    Site.unusedIf (entry.1 == update.primary) entry.2.sites) ++ update.filter.sites

def values (update : Update) : List Value :=
  update.changes.values ++ update.filter.sites.map Site.value

theorem sitesValues (update : Update) : update.sites.map Site.value = update.values := by
  have kept : ∀ (absent : Bool) (change : Change),
      (Site.unusedIf absent change.sites).map Site.value = change.values := by
    intro absent change
    rw [← change.sitesValues]
    cases absent
    · rfl
    · simp [Site.unusedIf, Site.unused, Function.comp_def]
  simp only [sites, values, Changes.values, List.map_append, List.map_flatMap, kept]

theorem sitesAssignment (entry : String × Change) :
    Piece.allSites (assignment entry) = entry.2.sites := by
  obtain ⟨column, change⟩ := entry
  cases change <;> simp [assignment, Change.sites, Piece.allSites, Piece.sites]

theorem boundChange (change : Change) : Site.bound change.sites = change.sites := by
  cases change with
  | set value => rfl
  | increase value => rfl
  | fragment items => exact Site.boundLoose items

theorem boundAssigned (changes : Changes) (primary : String) :
    Site.bound (changes.entries.flatMap fun entry =>
        Site.unusedIf (entry.1 == primary) entry.2.sites) =
      (changes.assigned primary).flatMap fun entry => entry.2.sites := by
  rw [Changes.assigned]
  induction changes.entries with
  | nil => rfl
  | cons entry rest ih =>
    rw [List.flatMap_cons, Site.boundAppend, ih, Site.boundUnusedIf, boundChange]
    cases same : entry.1 == primary <;> simp [same, bne]

theorem sitesOfPieces (update : Update) :
    Piece.allSites update.pieces = Site.bound update.sites := by
  rw [pieces, Piece.sitesAppend, Piece.sitesAppend, Piece.sitesAppend, Piece.sitesSeparated,
    Piece.sitesClause, Filter.sitesGuarded, Filter.sitesOfPieces, List.flatMap_map, sites,
    Site.boundAppend, boundAssigned]
  simp only [sitesAssignment]
  simp [Piece.allSites, Piece.sites]

end Update

theorem Delete.sitesOfPieces (delete : Delete) :
    Piece.allSites delete.pieces = Site.bound delete.filter.sites := by
  rw [Delete.pieces, Piece.sitesAppend, Piece.sitesAppend, Piece.sitesClause,
    Filter.sitesGuarded, Filter.sitesOfPieces]
  simp [Piece.allSites, Piece.sites]

end Sqlwright
