import Sqlwright.Dialect

/-! Where the statements for a table stop. An altered table does not take every definition, and
stops with the reason; a date or time stops it if its layout cannot be written. Without dates and
times nothing but the reasons can stop it, and the first of them does. -/
namespace Sqlwright

namespace Sketch

theorem obstacleAppend (first second : Sketch) :
    (first ++ second).obstacle? = first.obstacle?.or second.obstacle? := by
  obtain ⟨pieces, obstacle?⟩ := first
  cases obstacle? <;> rfl

theorem obstacleOf (pieces : List Piece) : (of pieces).obstacle? = none := rfl

theorem obstacleSeparated (separator : String) (sketches : List Sketch) :
    (separated separator sketches).obstacle? = sketches.findSome? (·.obstacle?) := by
  induction sketches with
  | nil => rfl
  | cons first rest ih =>
    cases rest with
    | nil => exact obstacleAll [first]
    | cons second later =>
      have between : separated separator (first :: second :: later) =
          first ++ (of [.text separator] ++ separated separator (second :: later)) := rfl
      rw [between, obstacleAppend, obstacleAppend, ih, obstacleOf, Option.none_or]
      cases stop : first.obstacle? <;> simp [stop]

end Sketch

def Value.isMoment : Value → Bool
  | .date _ | .time _ | .dateTime _ | .offsetDateTime _ => true
  | _ => false

theorem Column.obstacleDefault (layout? : Option Layout) {value : Value}
    (timeless : value.isMoment = false) : (defaultSketch layout? value).obstacle? = none := by
  cases value <;> first | rfl | cases timeless

theorem Column.obstacleOfDefault (mapper : ColumnMapper) (column : Column) :
    (column.sketch mapper).obstacle? = column.default?.bind fun value =>
      (defaultSketch (mapper column).layout? value).obstacle? := by
  rw [sketch, Sketch.obstacleAppend, Sketch.obstacleAppend, Sketch.obstacleOf, Sketch.obstacleOf]
  cases column.default? with
  | none => rfl
  | some value => simp [Sketch.obstacleAppend, Sketch.obstacleOf]

theorem Column.obstacleSketch (mapper : ColumnMapper) {column : Column}
    (timeless : ∀ value ∈ column.default?, value.isMoment = false) :
    (column.sketch mapper).obstacle? = none := by
  rw [obstacleOfDefault, Option.bind_eq_none_iff]
  exact fun value default => obstacleDefault _ (timeless value default)

namespace Definition

def default? : Definition → Option Value
  | .column c => c.default?
  | _ => none

def Timeless (definition : Definition) : Prop :=
  ∀ value ∈ definition.default?, value.isMoment = false

instance (definition : Definition) : Decidable definition.Timeless :=
  inferInstanceAs (Decidable (∀ value ∈ definition.default?, value.isMoment = false))

def Unsupported : Definition → Prop
  | .column c => c.operation = .alter
  | .key k => k.operation ≠ .create
  | .raw _ => False

instance : (definition : Definition) → Decidable definition.Unsupported
  | .column c => inferInstanceAs (Decidable (c.operation = .alter))
  | .key k => inferInstanceAs (Decidable (k.operation ≠ .create))
  | .raw _ => inferInstanceAs (Decidable False)

def rejection? (table : String) : Definition → Option Rejection
  | .column c => if c.operation = .alter then some (.columnAlteration c.name table) else none
  | .key k => if k.operation = .create then none else some (.keyOperation k.operation k.name table)
  | .raw _ => none

theorem rejectionSome {table : String} {definition : Definition} :
    (definition.rejection? table).isSome ↔ definition.Unsupported := by
  cases definition with
  | column c => simp [rejection?, Unsupported]
  | key k => simp [rejection?, Unsupported]
  | raw sql => simp [rejection?, Unsupported]

def column? : Operation → Definition → Option Column
  | .create, .column c => some c
  | .alter, .column c => if c.operation = .create then some c else none
  | _, _ => none

theorem columnSource {operation : Operation} {definition : Definition} {column : Column}
    (written : definition.column? operation = some column) : definition = .column column := by
  cases definition <;> cases operation <;> simp_all [column?]

variable (mapper : ColumnMapper) {definition : Definition}

theorem obstacleOfSketch (definition : Definition) :
    (definition.sketch mapper).obstacle? =
      (definition.column? .create).bind fun column => (column.sketch mapper).obstacle? := by
  cases definition <;> rfl

theorem obstacleOfAlter (table : Table) (definition : Definition) :
    (definition.alterSketch mapper table).obstacle? =
      ((definition.column? .alter).bind fun column => (column.sketch mapper).obstacle?).or
        ((definition.rejection? table.name).map .rejected) := by
  cases definition with
  | column c =>
    cases operation : c.operation with
    | create =>
      simp [alterSketch, renamed?, changeSketch, column?, rejection?, operation,
        Sketch.obstacleAppend, Sketch.obstacleOf]
    | alter => simp [alterSketch, renamed?, changeSketch, column?, rejection?, operation]; rfl
    | rename => simp [alterSketch, renamed?, column?, rejection?, operation, Sketch.obstacleOf]
    | drop => simp [alterSketch, renamed?, changeSketch, column?, rejection?, operation]; rfl
  | key k =>
    cases operation : k.operation <;>
      · simp [alterSketch, renamed?, changeSketch, column?, rejection?, operation]; rfl
  | raw sql => rfl

theorem obstacleSketch
    (unstopped : ∀ column ∈ definition.column? .create, (column.sketch mapper).obstacle? = none) :
    (definition.sketch mapper).obstacle? = none := by
  rw [obstacleOfSketch, Option.bind_eq_none_iff]
  exact unstopped

theorem obstacleAlter
    (unstopped : ∀ column ∈ definition.column? .alter, (column.sketch mapper).obstacle? = none)
    (table : Table) :
    (definition.alterSketch mapper table).obstacle? =
      (definition.rejection? table.name).map .rejected := by
  rw [obstacleOfAlter, Option.bind_eq_none_iff.mpr unstopped, Option.none_or]

end Definition

namespace Table

def Timeless (table : Table) : Prop := ∀ definition ∈ table.definitions, definition.Timeless

instance (table : Table) : Decidable table.Timeless :=
  inferInstanceAs (Decidable (∀ definition ∈ table.definitions, definition.Timeless))

def columns (table : Table) : List Column :=
  table.definitions.filterMap (Definition.column? table.operation)

def Unstopped (mapper : ColumnMapper) (table : Table) : Prop :=
  ∀ column ∈ table.columns, (column.sketch mapper).obstacle? = none

theorem Timeless.unstopped {table : Table} (timeless : table.Timeless) (mapper : ColumnMapper) :
    table.Unstopped mapper := by
  intro column written
  obtain ⟨definition, member, source⟩ := List.mem_filterMap.mp written
  have each := timeless definition member
  rw [Definition.columnSource source] at each
  exact Column.obstacleSketch mapper each

def Unsupported (table : Table) : Prop :=
  table.operation = .alter ∧ ∃ definition ∈ table.definitions, definition.Unsupported

def rejection? (table : Table) : Option Rejection :=
  if table.operation = .alter then table.definitions.findSome? (Definition.rejection? table.name)
  else none

theorem unsupportedFirst {table : Table} :
    (∃ reason, table.definitions.findSome? (Definition.rejection? table.name) = some reason) ↔
      ∃ definition ∈ table.definitions, definition.Unsupported := by
  rw [← Option.isSome_iff_exists, List.findSome?_isSome_iff]
  exact exists_congr fun definition => and_congr_right fun _ => Definition.rejectionSome

theorem rejectionSome {table : Table} : table.rejection?.isSome ↔ table.Unsupported := by
  rw [rejection?, Unsupported, ← unsupportedFirst, Option.isSome_iff_exists]
  split
  · rename_i altered
    simp only [altered, true_and]
  · rename_i other
    simp [other]

variable (mapper : ColumnMapper) {table : Table}

theorem Unstopped.definition {mapper : ColumnMapper} {table : Table}
    (unstopped : table.Unstopped mapper) {definition : Definition}
    (member : definition ∈ table.definitions) :
    ∀ column ∈ definition.column? table.operation, (column.sketch mapper).obstacle? = none :=
  fun column written => unstopped column (List.mem_filterMap.mpr ⟨definition, member, written⟩)

theorem obstacleOfAlter (altered : table.operation = .alter) :
    (table.sketch mapper).obstacle? =
      table.definitions.findSome? fun definition =>
        (definition.alterSketch mapper table).obstacle? := by
  simp only [sketch, altered]
  rw [alterSketch, Sketch.obstacleAll, List.findSome?_map]
  rfl

theorem obstacleOfCreate (created : table.operation = .create) :
    (table.sketch mapper).obstacle? =
      table.definitions.findSome? fun definition => (definition.sketch mapper).obstacle? := by
  have inside : (Sketch.separated ", " (table.definitions.map (·.sketch mapper))).obstacle? =
      table.definitions.findSome? fun definition => (definition.sketch mapper).obstacle? := by
    rw [Sketch.obstacleSeparated, List.findSome?_map]
    rfl
  simp only [sketch, created]
  rw [createSketch, Sketch.obstacleAppend, Sketch.obstacleAppend, Sketch.obstacleOf,
    Sketch.obstacleOf]
  split
  · rename_i empty
    rw [List.isEmpty_iff.mp empty]
    rfl
  · simp [Sketch.obstacleAppend, Sketch.obstacleOf, inside]

theorem obstacleAltered (altered : table.operation = .alter) (unstopped : table.Unstopped mapper) :
    (table.sketch mapper).obstacle? =
      (table.definitions.findSome? (Definition.rejection? table.name)).map .rejected := by
  have each : ∀ definitions : List Definition, definitions ⊆ table.definitions →
      definitions.findSome? (fun definition => (definition.alterSketch mapper table).obstacle?) =
        (definitions.findSome? (Definition.rejection? table.name)).map .rejected := by
    intro definitions inside
    induction definitions with
    | nil => rfl
    | cons definition rest ih =>
      obtain ⟨here, later⟩ := List.cons_subset.mp inside
      have first := definition.obstacleAlter mapper (altered ▸ unstopped.definition here) table
      cases stop : definition.rejection? table.name with
      | none => simpa [first, stop] using ih later
      | some reason => simp [first, stop]
  rw [obstacleOfAlter mapper altered]
  exact each table.definitions (List.Subset.refl _)

theorem obstacleCreated (created : table.operation = .create) (unstopped : table.Unstopped mapper) :
    (table.sketch mapper).obstacle? = none := by
  rw [obstacleOfCreate mapper created, List.findSome?_eq_none_iff]
  exact fun definition member =>
    definition.obstacleSketch mapper (created ▸ unstopped.definition member)

theorem obstacleSketch (unstopped : table.Unstopped mapper) :
    (table.sketch mapper).obstacle? = table.rejection?.map .rejected := by
  rw [rejection?]
  cases operation : table.operation with
  | create => exact obstacleCreated mapper operation unstopped
  | alter => exact obstacleAltered mapper operation unstopped
  | rename => simp [sketch, operation, Sketch.obstacleOf]
  | drop => simp [sketch, operation, Sketch.obstacleOf]

end Table

namespace Index

def Unsupported (index : Index) : Prop := index.operation ≠ .create ∧ index.operation ≠ .drop

def rejection? (index : Index) : Option Rejection :=
  match index.operation with
  | .create | .drop => none
  | operation => some (.indexOperation operation index.name index.table)

theorem rejectionSome {index : Index} : index.rejection?.isSome ↔ index.Unsupported := by
  cases operation : index.operation <;> simp [rejection?, Unsupported, operation]

theorem obstacleSketch (index : Index) :
    index.sketch.obstacle? = index.rejection?.map .rejected := by
  cases operation : index.operation <;>
    simp [sketch, rejection?, operation, ended, Sketch.of, Sketch.stopped]

end Index

end Sqlwright
