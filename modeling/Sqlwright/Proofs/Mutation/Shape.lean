import Sqlwright.Proofs.Mutation.Sites
import Sqlwright.Proofs.Query.Shape

/-! Shapes of statements that change rows. Columns are kept, and whether a column is set, so a
bulk insert finds the cells of equal shapes at equal places of their rows. -/
namespace Sqlwright

theorem Entries.lookupMap (change : α → β) (key : String) (entries : List (String × α)) :
    lookup key (entries.map fun entry => (entry.1, change entry.2)) =
      (lookup key entries).map change := by
  induction entries with
  | nil => rfl
  | cons entry rest ih =>
    by_cases found : key = entry.1 <;> simp [lookup, found, ih]

namespace Change

def shape : Change → Change
  | .set value => .set value.shape
  | .increase value => .increase value.shape
  | .fragment items => .fragment (items.map Value.shape)

theorem shapeValue (change : Change) : change.shape.value? = change.value?.map Value.shape := by
  cases change <;> rfl

theorem shapeValues (change : Change) : change.shape.values = change.values.map Value.shape := by
  cases change <;> rfl

theorem shapeSites (change : Change) : change.shape.sites = change.sites.map Site.shape := by
  cases change with
  | set value => rfl
  | increase value => rfl
  | fragment items => exact (Site.shapesLoose items).symm

theorem shapeSetSites (change : Change) :
    change.shape.setSites = change.setSites.map Site.shape := by
  cases change with
  | set value => rfl
  | increase value => rfl
  | fragment items =>
    show Site.unused (Site.loose (items.map Value.shape)) = _
    rw [← Site.shapesLoose, ← Site.shapesUnused]
    rfl

theorem valuesLength {change other : Change} (alike : change.shape = other.shape) :
    change.values.length = other.values.length := by
  have same := congrArg (List.length ∘ values) alike
  simpa [shapeValues] using same

theorem valueOnly {change : Change} {value : Value} (found : change.value? = some value) :
    change.values = [value] := by
  cases change with
  | set v => exact congrArg ([·]) (Option.some.inj found)
  | increase v => cases found
  | fragment vs => cases found

theorem valuePaired {change other : Change} {value cell : Value}
    (found : change.value? = some value) (again : other.value? = some cell) :
    Value.Paired change.values other.values value cell := by
  rw [valueOnly found, valueOnly again]
  exact List.mem_cons_self

end Change

namespace Changes

def shapeEntry (entry : String × Change) : String × Change := (entry.1, entry.2.shape)

def shape (changes : Changes) : Changes where
  entries := changes.entries.map shapeEntry
  ascending := List.pairwise_map.mpr changes.ascending

theorem shapeSettings (changes : Changes) : changes.shape.settings =
    changes.settings.map fun setting => (setting.1, setting.2.shape) := by
  rw [settings, shape, List.filterMap_map, settings, List.map_filterMap]
  congr 1
  funext entry
  simp [shapeEntry, Change.shapeValue, Function.comp_def]

theorem shapeAssigned (changes : Changes) (primary : String) :
    changes.shape.assigned primary = (changes.assigned primary).map shapeEntry :=
  List.filter_map

theorem shapeValue (changes : Changes) (column : String) :
    changes.shape.value? column = (changes.value? column).map Value.shape := by
  have found : changes.shape.find? column = (changes.find? column).map Change.shape :=
    Entries.lookupMap Change.shape column changes.entries
  rw [value?, found, value?]
  cases changes.find? column with
  | none => rfl
  | some change => exact change.shapeValue

theorem cellPaired {entries others : List (String × Change)}
    (alike : entries.map shapeEntry = others.map shapeEntry) {column : String}
    {value other : Value}
    (found : (Entries.lookup column entries).bind Change.value? = some value)
    (again : (Entries.lookup column others).bind Change.value? = some other) :
    Value.Paired (entries.flatMap fun entry => entry.2.values)
      (others.flatMap fun entry => entry.2.values) value other := by
  induction entries generalizing others with
  | nil => cases found
  | cons entry rest ih =>
    cases others with
    | nil => cases alike
    | cons second later =>
      obtain ⟨first, tail⟩ := List.cons.inj alike
      obtain ⟨column', change⟩ := entry
      obtain ⟨column'', change'⟩ := second
      obtain ⟨name, same⟩ := Prod.mk.inj first
      have length := Change.valuesLength same
      have name : column' = column'' := name
      subst name
      rw [List.flatMap_cons, List.flatMap_cons]
      refine Value.pairedAppend length ?_
      by_cases here : column = column'
      · rw [Entries.lookup, if_pos here] at found again
        exact .inl (Change.valuePaired found again)
      · rw [Entries.lookup, if_neg here] at found again
        exact .inr (ih tail found again)

theorem rowPaired {row other : Changes} (alike : row.shape = other.shape)
    (fields : List String) :
    List.Forall₂ (Value.Paired row.values other.values) (fields.filterMap row.value?)
      (fields.filterMap other.value?) := by
  have entries : row.entries.map shapeEntry = other.entries.map shapeEntry :=
    congrArg Keyed.entries alike
  induction fields with
  | nil => exact .nil
  | cons field rest ih =>
    have same : (row.value? field).map Value.shape = (other.value? field).map Value.shape := by
      rw [← shapeValue, ← shapeValue, alike]
    rw [List.filterMap_cons, List.filterMap_cons]
    cases found : row.value? field with
    | none =>
      rw [found] at same
      rw [Option.map_eq_none_iff.mp same.symm]
      exact ih
    | some value =>
      cases again : other.value? field with
      | none =>
        rw [found, again] at same
        cases same
      | some cell => exact .cons (cellPaired entries found again) ih

theorem valuesLength {row other : Changes} (alike : row.shape = other.shape) :
    row.values.length = other.values.length := by
  have entries : row.entries.map shapeEntry = other.entries.map shapeEntry :=
    congrArg Keyed.entries alike
  have count : ∀ changes : Changes, changes.values.length =
      ((changes.entries.map shapeEntry).map fun entry => entry.2.values.length).sum := by
    intro changes
    simp [values, List.length_flatMap, shapeEntry, Function.comp_def, Change.shapeValues]
  rw [count, count, entries]

end Changes

namespace Piece

theorem shapesNumbering (brought : Bool) (table : String) (statement : List Piece) :
    shapes (numbering brought table statement) = numbering brought table (shapes statement) := by
  cases brought with
  | false => rfl
  | true =>
    simp only [numbering, if_true, shapesAppend]
    rfl

end Piece

namespace Insert

def shape (insert : Insert) : Insert := { insert with changes := insert.changes.shape }

theorem shapePieces (insert : Insert) : insert.shape.pieces = Piece.shapes insert.pieces := by
  have brings : insert.shape.bringsNumber = insert.bringsNumber := by
    simp [bringsNumber, shape, Changes.shapeValue]
  have names : insert.shape.changes.settings.map (·.1) = insert.changes.settings.map (·.1) := by
    rw [shape, Changes.shapeSettings, List.map_map]
    rfl
  have values : insert.shape.changes.settings.map (·.2) =
      (insert.changes.settings.map (·.2)).map Value.shape := by
    rw [shape, Changes.shapeSettings, List.map_map, List.map_map]
    rfl
  have none : insert.shape.changes.settings.isEmpty = insert.changes.settings.isEmpty := by
    rw [shape, Changes.shapeSettings, List.isEmpty_map]
  simp only [pieces]
  rw [brings, names, values, none, Piece.shapesNumbering]
  simp only [Piece.shapesAppend, Piece.shapesWithoutSites (Piece.sitesColumns ..),
    Piece.shapesWithoutSites (Piece.sitesOutput ..)]
  split
  · rfl
  · rw [← Piece.shapesValues, ← Piece.shapesEnclosed]
    rfl

theorem shapeSites (insert : Insert) : insert.shape.sites = insert.sites.map Site.shape := by
  rw [sites, sites, List.map_flatMap]
  show (insert.changes.entries.map Changes.shapeEntry).flatMap _ = _
  rw [List.flatMap_map]
  simp only [Changes.shapeEntry, Change.shapeSetSites]

theorem valuesPaired {first second : Insert} (alike : first.shape = second.shape) :
    List.Forall₂ (Value.Paired first.changes.values second.changes.values)
      ((Piece.allSites first.pieces).map Site.value)
      ((Piece.allSites second.pieces).map Site.value) := by
  rw [sitesOfPieces, sitesOfPieces, ← sitesValues, ← sitesValues]
  apply Site.boundPaired
  rw [← shapeSites, ← shapeSites, alike]

end Insert

namespace BulkInsert

def shape (insert : BulkInsert) : BulkInsert :=
  { insert with rows := insert.rows.map Changes.shape }

theorem shapeCell (row : Changes) (field : String) :
    cell row.shape field = (cell row field).shape := by
  rw [cell, Changes.shapeValue, cell]
  cases row.value? field <;> rfl

theorem shapeTuple (fields : List String) (row : Changes) :
    tuple fields row.shape = Piece.shapes (tuple fields row) := by
  rw [tuple, tuple, Piece.shapesEnclosed, Piece.shapesSeparated, List.map_map]
  simp only [shapeCell]
  rfl

theorem shapePieces (insert : BulkInsert) :
    insert.shape.pieces = Piece.shapes insert.pieces := by
  have rows : insert.shape.rowPieces = Piece.shapes insert.rowPieces := by
    have fields : insert.shape.fields = insert.fields := rfl
    rw [rowPieces, fields, rowPieces]
    split
    · rfl
    · show Piece.text _ :: Piece.separated "," ((insert.rows.map Changes.shape).map _) =
        Piece.text _ :: Piece.shapes _
      rw [Piece.shapesSeparated, List.map_map, List.map_map]
      simp only [Function.comp_def, shapeTuple]
  simp only [pieces]
  rw [rows, Piece.shapesNumbering]
  simp only [Piece.shapesAppend, Piece.shapesWithoutSites (Piece.sitesColumns ..),
    Piece.shapesWithoutSites (Piece.sitesOutput ..)]
  rfl

theorem cellsPaired (fields : List String) {rows others : List Changes}
    (alike : rows.map Changes.shape = others.map Changes.shape) :
    List.Forall₂
      (Value.Paired (rows.flatMap Changes.values) (others.flatMap Changes.values))
      (rows.flatMap fun row => fields.filterMap row.value?)
      (others.flatMap fun row => fields.filterMap row.value?) := by
  induction rows generalizing others with
  | nil =>
    have none : others = [] := by simpa using alike.symm
    rw [none]
    exact .nil
  | cons row rest ih =>
    cases others with
    | nil => cases alike
    | cons other later =>
      obtain ⟨first, tail⟩ := List.cons.inj alike
      have length := Changes.valuesLength first
      refine List.rel_append ((Changes.rowPaired first fields).imp ?_) ((ih tail).imp ?_)
      · exact fun _ _ paired => Value.pairedAppend length (.inl paired)
      · exact fun _ _ paired => Value.pairedAppend length (.inr paired)

theorem valuesPaired {first second : BulkInsert} (alike : first.shape = second.shape) :
    List.Forall₂
      (Value.Paired (first.rows.flatMap Changes.values) (second.rows.flatMap Changes.values))
      ((Piece.allSites first.pieces).map Site.value)
      ((Piece.allSites second.pieces).map Site.value) := by
  obtain ⟨table, primary, fields, rows⟩ := first
  obtain ⟨other, key, columns, others⟩ := second
  obtain ⟨_, _, names, shapes⟩ := BulkInsert.mk.inj alike
  have names : fields = columns := names
  subst names
  rw [sitesOfPieces, sitesOfPieces, List.map_map, List.map_map]
  simp only [Function.comp_def, List.map_id', cells]
  exact cellsPaired fields shapes

end BulkInsert

namespace Update

def shape (update : Update) : Update :=
  { update with changes := update.changes.shape, filter := update.filter.shape }

theorem shapeAssignment (entry : String × Change) :
    assignment (Changes.shapeEntry entry) = Piece.shapes (assignment entry) := by
  obtain ⟨column, change⟩ := entry
  cases change <;> rfl

theorem shapePieces (update : Update) : update.shape.pieces = Piece.shapes update.pieces := by
  simp only [pieces, shape]
  rw [Changes.shapeAssigned, Filter.shapeEmpty, Filter.shapePieces, List.map_map]
  simp only [Piece.shapesAppend, Piece.shapesSeparated, Piece.shapesClause, List.map_map]
  simp only [Function.comp_def, shapeAssignment]
  rfl

theorem shapeSites (update : Update) : update.shape.sites = update.sites.map Site.shape := by
  rw [sites, sites, List.map_append, List.map_flatMap]
  show (update.changes.entries.map Changes.shapeEntry).flatMap _ ++ update.filter.shape.sites = _
  rw [List.flatMap_map, Filter.shapeSites]
  simp only [Changes.shapeEntry, Change.shapeSites, Site.shapesUnusedIf]
  rfl

theorem valuesPaired {first second : Update} (alike : first.shape = second.shape) :
    List.Forall₂ (Value.Paired first.values second.values)
      ((Piece.allSites first.pieces).map Site.value)
      ((Piece.allSites second.pieces).map Site.value) := by
  rw [sitesOfPieces, sitesOfPieces, ← sitesValues, ← sitesValues]
  apply Site.boundPaired
  rw [← shapeSites, ← shapeSites, alike]

end Update

namespace Delete

def shape (delete : Delete) : Delete := { delete with filter := delete.filter.shape }

theorem shapePieces (delete : Delete) : delete.shape.pieces = Piece.shapes delete.pieces := by
  simp only [pieces, shape]
  rw [Filter.shapeEmpty, Filter.shapePieces]
  simp only [Piece.shapesAppend, Piece.shapesClause]
  rfl

theorem valuesPaired {first second : Delete} (alike : first.shape = second.shape) :
    List.Forall₂
      (Value.Paired (first.filter.sites.map Site.value) (second.filter.sites.map Site.value))
      ((Piece.allSites first.pieces).map Site.value)
      ((Piece.allSites second.pieces).map Site.value) := by
  have filters : first.filter.shape = second.filter.shape := (Delete.mk.inj alike).2
  rw [sitesOfPieces, sitesOfPieces]
  apply Site.boundPaired
  rw [← Filter.shapeSites, ← Filter.shapeSites, filters]

end Delete

end Sqlwright
