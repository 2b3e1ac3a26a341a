import Sqlwright.Proofs.Query.Fence
import Sqlwright.Schema.Index

/-! The literals of schema statements: defaults, the name that an index is looked for by and
the values of its filter. Options and references follow a blank, and a statement ends with a
semicolon, so what is altered next cannot go on with a literal either. -/
namespace Sqlwright

namespace Sketch

theorem fencedBehind {first second : Sketch} (plain : Piece.isPlain first.pieces = true)
    (later : Piece.Fenced second.pieces) : Piece.Fenced (first ++ second).pieces := by
  obtain ⟨pieces, obstacle?⟩ := first
  cases obstacle? with
  | none => exact Piece.fencedBehind plain later
  | some obstacle => exact Piece.fencedPlain plain

theorem fencedAppend {first second : Sketch} (fenced : Piece.Fenced first.pieces)
    (opens : Piece.opensFenced second.pieces = true) (later : Piece.Fenced second.pieces) :
    Piece.Fenced (first ++ second).pieces := by
  obtain ⟨pieces, obstacle?⟩ := first
  cases obstacle? with
  | none => exact Piece.fencedAppend fenced opens later
  | some obstacle => exact fenced

theorem fencedSeparated {word : String} (fence : Piece.opensFenced [.text word] = true)
    {sketches : List Sketch} (fenced : ∀ sketch ∈ sketches, Piece.Fenced sketch.pieces) :
    Piece.Fenced (separated word sketches).pieces := by
  unfold separated
  induction sketches with
  | nil => trivial
  | cons sketch rest ih =>
    obtain ⟨here, later⟩ := List.forall_mem_cons.mp fenced
    cases rest with
    | nil => exact fencedAppend here rfl trivial
    | cons next more =>
      have behind : Piece.Fenced (of [.text word] ++
          all ((next :: more).intersperse (of [.text word]))).pieces :=
        fencedBehind rfl (ih later)
      exact fencedAppend here fence behind

end Sketch

namespace Piece

theorem plainOptions (text : String) : isPlain (options text) = true := by
  unfold options
  split <;> rfl

theorem opensOptions (text : String) : opensFenced (options text) = true := by
  unfold options
  split <;> rfl

theorem plainColumnList (names : List String) : isPlain (columnList names) = true :=
  plainEnclosed (plainFields ", " names)

end Piece

namespace Column

theorem fencedDefault (layout? : Option Layout) (value : Value) :
    Piece.Fenced (defaultSketch layout? value).pieces := by
  have moment (layout : Layout) (moment : Moment) :
      Piece.Fenced (momentSketch layout moment value).pieces := by
    unfold momentSketch
    split
    · exact Piece.fencedOne _
    · trivial
  cases value with
  | date | time | dateTime | offsetDateTime => exact moment _ _
  | _ => exact Piece.fencedOne _

theorem plainFlags (column : Column) : Piece.isPlain column.flags = true := by
  unfold flags
  refine Piece.plainAppend (Piece.plainAppend ?_ ?_) ?_ <;> split <;> rfl

theorem fencedSketch (mapper : ColumnMapper) (column : Column) :
    Piece.Fenced (column.sketch mapper).pieces := by
  have plain : Piece.isPlain ([.field column.name, .text " ", .text (mapper column).name,
      .text (mapper column).sizeText] ++ column.flags) = true := column.plainFlags
  unfold sketch
  refine Sketch.fencedAppend (Sketch.fencedBehind plain ?_)
    (Piece.opensOptions column.options) (Piece.fencedPlain (Piece.plainOptions column.options))
  split
  · exact Sketch.fencedBehind rfl (fencedDefault _ _)
  · trivial

end Column

theorem Key.plainPieces (key : Key) : Piece.isPlain key.pieces = true := by
  have named : Piece.isPlain (if key.name.isEmpty then []
      else [.text "CONSTRAINT ", .field key.name, .text " "]) = true := by split <;> rfl
  have acted (event action : String) : Piece.isPlain (Reference.action event action) = true := by
    unfold Reference.action
    split <;> rfl
  have referred : Piece.isPlain key.referencePieces = true := by
    unfold referencePieces
    split
    · exact Piece.plainAppend (Piece.plainAppend (Piece.plainAppend rfl
        (Piece.plainColumnList _)) (acted _ _)) (acted _ _)
    · rfl
  exact Piece.plainAppend (Piece.plainAppend (Piece.plainAppend (Piece.plainAppend named rfl)
    (Piece.plainColumnList key.columns)) referred) (Piece.plainOptions key.options)

namespace Definition

theorem fencedSketch (mapper : ColumnMapper) (definition : Definition) :
    Piece.Fenced (definition.sketch mapper).pieces := by
  cases definition with
  | column c => exact c.fencedSketch mapper
  | key k => exact Piece.fencedPlain k.plainPieces
  | raw sql => exact Piece.fencedPlain rfl

theorem fencedChange (mapper : ColumnMapper) (table : String) (definition : Definition) :
    Piece.Fenced (definition.changeSketch mapper table).pieces := by
  cases definition with
  | column c =>
    rw [changeSketch]
    split
    · exact Sketch.fencedBehind rfl (c.fencedSketch mapper)
    · exact Piece.fencedPlain rfl
    · trivial
    · trivial
  | key k =>
    rw [changeSketch]
    split
    · exact Piece.fencedText "ADD " (Piece.fencedPlain k.plainPieces)
    · trivial
  | raw sql => exact Piece.fencedPlain rfl

theorem fencedAlter (mapper : ColumnMapper) (table : Table) (definition : Definition)
    {rest : Sketch} (later : Piece.Fenced rest.pieces) :
    Piece.Fenced (definition.alterSketch mapper table ++ rest).pieces := by
  unfold alterSketch
  split
  · exact Sketch.fencedBehind rfl later
  · have closing : Piece.isPlain (Piece.options table.options ++ [.text ";"]) = true :=
      Piece.plainAppend (Piece.plainOptions table.options) rfl
    have opens : Piece.opensFenced
        (Piece.options table.options ++ [.text ";"] ++ rest.pieces) = true := by
      rw [List.append_assoc]
      exact Piece.opensAppend (Piece.opensOptions table.options) rfl
    rw [Sketch.appendAssoc]
    exact Sketch.fencedAppend
      (Sketch.fencedBehind rfl (definition.fencedChange mapper table.name)) opens
      (Sketch.fencedBehind closing later)

end Definition

namespace Table

theorem fencedCreate (mapper : ColumnMapper) (table : Table) :
    Piece.Fenced (table.createSketch mapper).pieces := by
  have lead : Piece.isPlain ((if table.optional then Piece.tableGuard table.name "IS NULL"
      else []) ++ [.text "CREATE TABLE ", .field table.name]) = true := by
    split <;> rfl
  have body : Piece.Fenced (if table.definitions.isEmpty then Sketch.empty
      else .of [.text " ("] ++ .separated ", " (table.definitions.map (·.sketch mapper)) ++
        .of [.text ")"]).pieces := by
    split
    · trivial
    · have listed : ∀ sketch ∈ table.definitions.map (·.sketch mapper),
          Piece.Fenced sketch.pieces := by
        intro sketch member
        obtain ⟨definition, -, rfl⟩ := List.mem_map.mp member
        exact definition.fencedSketch mapper
      exact Sketch.fencedAppend (Sketch.fencedBehind rfl (Sketch.fencedSeparated rfl listed)) rfl
        (Piece.fencedPlain rfl)
  exact Sketch.fencedAppend (Sketch.fencedBehind lead body)
    (Piece.opensAppend (Piece.opensOptions table.options) rfl)
    (Piece.fencedPlain (Piece.plainAppend (Piece.plainOptions table.options) rfl))

theorem fencedSketch (mapper : ColumnMapper) (table : Table) :
    Piece.Fenced (table.sketch mapper).pieces := by
  unfold sketch
  split
  · exact table.fencedCreate mapper
  · rw [alterSketch]
    induction table.definitions with
    | nil => trivial
    | cons definition rest ih => exact definition.fencedAlter mapper table ih
  · exact Piece.fencedPlain rfl
  · have plain : Piece.isPlain table.dropPieces = true := by
      unfold dropPieces
      split <;> rfl
    exact Piece.fencedPlain plain

end Table

namespace Index

theorem fencedGuarded (index : Index) {rest : List Piece} (later : Piece.Fenced rest) :
    Piece.Fenced ((if index.optional then index.absenceGuard else []) ++ rest) := by
  split
  · exact Piece.fencedText _ ⟨fun _ => rfl, Piece.fencedText _ (Piece.fencedField index.table
      (Piece.fencedText "')) " later))⟩
  · exact later

theorem plainPresence (index : Index) : Piece.isPlain
    (Piece.clause " WHERE " (!index.unique) (presencePieces index.columns)) = true := by
  cases index.unique with
  | false => rfl
  | true =>
    refine Piece.plainSeparated " AND " fun part listed => ?_
    obtain ⟨column, -, rfl⟩ := List.mem_map.mp listed
    rfl

theorem fencedCreate (index : Index) : Piece.Fenced index.createPieces := by
  have unique : Piece.isPlain
      (if index.unique then [.text "UNIQUE NONCLUSTERED "] else []) = true := by
    split <;> rfl
  have conditions := Piece.fencedBehind index.plainPresence (Piece.fencedClause
    (if index.unique then " AND " else " WHERE ") index.filter.isEmpty index.filter.fencedPieces)
  have columns := Piece.fencedBehind (Piece.plainColumnList index.columns) conditions
  have named := Piece.fencedText "INDEX " (Piece.fencedField index.name
    (Piece.fencedText " ON " (Piece.fencedField index.table columns)))
  simp only [createPieces, List.append_assoc]
  exact index.fencedGuarded (Piece.fencedBehind rfl (Piece.fencedBehind unique named))

theorem fencedSketch (index : Index) : Piece.Fenced index.sketch.pieces := by
  have ended {pieces : List Piece} (fenced : Piece.Fenced pieces) :
      Piece.Fenced (index.ended pieces).pieces := by
    have options := Piece.fencedAppend fenced (Piece.opensOptions index.options)
      (Piece.fencedPlain (Piece.plainOptions index.options))
    exact Piece.fencedAppend options rfl (Piece.fencedPlain rfl)
  unfold sketch
  split
  · exact ended index.fencedCreate
  · have plain : Piece.isPlain index.dropPieces = true := by
      unfold dropPieces
      split <;> rfl
    exact ended (Piece.fencedPlain plain)
  · trivial

end Index

end Sqlwright
