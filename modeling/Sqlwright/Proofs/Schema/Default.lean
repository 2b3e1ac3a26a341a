import Sqlwright.Proofs.Schema.Obstacle
import Sqlwright.Proofs.Statement.Literal

/-! Where the default of a column stands in the statement for its table. Every column that is
written out has its default there, a date or time as its layout has it, unless the statement ends
before the column is reached. Another default of the column takes its place and leaves the rest. -/
namespace Sqlwright

namespace Sketch

/-- Two sketches that end alike and, if they come to their ends, differ at one place. -/
structure Swaps (pieces others : List Piece) (first second : Sketch) : Prop where
  stops : second.obstacle? = first.obstacle?
  places : first.obstacle? = none → ∃ before after,
    first.pieces = before ++ pieces ++ after ∧ second.pieces = before ++ others ++ after

variable {pieces others : List Piece} {first second : Sketch}

theorem swapsOf (before after : List Piece) : Swaps pieces others
    (of (before ++ pieces ++ after)) (of (before ++ others ++ after)) :=
  ⟨rfl, fun _ => ⟨before, after, rfl, rfl⟩⟩

theorem swapsFirst (swaps : Swaps pieces others first second) (behind : Sketch) :
    Swaps pieces others (first ++ behind) (second ++ behind) := by
  obtain ⟨own, obstacle?⟩ := first
  obtain ⟨other, same?⟩ := second
  cases swaps.stops
  cases obstacle? with
  | some obstacle => exact ⟨rfl, fun done => by cases done⟩
  | none =>
    obtain ⟨before, after, here, there⟩ := swaps.places rfl
    refine ⟨rfl, fun _ => ⟨before, after ++ behind.pieces, ?_, ?_⟩⟩
    · rw [← List.append_assoc, ← here]
      rfl
    · rw [← List.append_assoc, ← there]
      rfl

theorem swapsSecond (swaps : Swaps pieces others first second) (ahead : Sketch) :
    Swaps pieces others (ahead ++ first) (ahead ++ second) := by
  obtain ⟨own, obstacle?⟩ := ahead
  cases obstacle? with
  | some obstacle => exact ⟨rfl, fun done => by cases done⟩
  | none =>
    refine ⟨swaps.stops, fun done => ?_⟩
    obtain ⟨before, after, here, there⟩ := swaps.places done
    refine ⟨own ++ before, after, ?_, ?_⟩
    · rw [List.append_assoc own, List.append_assoc own, ← here]
      rfl
    · rw [List.append_assoc own, List.append_assoc own, ← there]
      rfl

theorem swapsAll (swaps : Swaps pieces others first second) (ahead behind : List Sketch) :
    Swaps pieces others (all (ahead ++ first :: behind)) (all (ahead ++ second :: behind)) := by
  rw [allAppend, allAppend]
  exact swapsSecond (swapsFirst swaps (all behind)) (all ahead)

theorem swapsSeparated (word : String) (swaps : Swaps pieces others first second)
    (ahead behind : List Sketch) :
    Swaps pieces others (separated word (ahead ++ first :: behind))
      (separated word (ahead ++ second :: behind)) := by
  induction ahead with
  | nil =>
    cases behind with
    | nil => exact swapsAll swaps [] []
    | cons next later =>
      exact swapsAll swaps [] (of [.text word] :: (next :: later).intersperse (of [.text word]))
  | cons head rest ih =>
    have step (sketch : Sketch) : separated word (head :: (rest ++ sketch :: behind)) =
        head ++ (of [.text word] ++ separated word (rest ++ sketch :: behind)) := by
      cases rest <;> rfl
    rw [List.cons_append, List.cons_append, step, step]
    exact swapsSecond (swapsSecond ih _) _

end Sketch

namespace Column

def defaultText? (layout? : Option Layout) : Value → Option String
  | .date d => (layout?.getD .date).format? d.moment
  | .time t => (layout?.getD .time).format? t.moment
  | .dateTime dt => (layout?.getD .dateTime).format? dt.moment
  | .offsetDateTime dt => (layout?.getD .dateTime).format? dt.moment
  | value => value.quotedText?

theorem defaultQuoted {layout? : Option Layout} {value : Value} {content : String}
    (quoted : defaultText? layout? value = some content) :
    ∃ piece, piece.quotedText? = some content ∧ defaultSketch layout? value = .of [piece] := by
  have moment {layout : Layout} {moment : Moment} (text : layout.format? moment = some content) :
      momentSketch layout moment value = .of [.quoted content] := by
    rw [momentSketch, text]
  cases value with
  | date | time | dateTime | offsetDateTime => exact ⟨.quoted content, rfl, moment quoted⟩
  | int | float => cases quoted
  | _ => exact ⟨.value _, quoted, rfl⟩

def defaulting (column : Column) (value : Value) : Column := { column with default? := some value }

theorem defaultingOwn {column : Column} {value : Value} (default : column.default? = some value) :
    column.defaulting value = column := by
  cases column
  cases default
  rfl

theorem defaultingListed {operation : Operation} {column : Column}
    (listed : (Definition.column column).column? operation = some column) (value : Value) :
    (Definition.column (column.defaulting value)).column? operation =
      some (column.defaulting value) := by
  cases operation with
  | create => rfl
  | alter =>
    have added : column.operation = .create := by simpa [Definition.column?] using listed
    exact if_pos added
  | rename => cases listed
  | drop => cases listed

theorem swapsDefault {mapper : ColumnMapper} {column : Column} {value another : Value}
    {piece other : Piece}
    (type : mapper (column.defaulting another) = mapper (column.defaulting value))
    (written : defaultSketch (mapper (column.defaulting value)).layout? value = .of [piece])
    (otherWritten : defaultSketch (mapper (column.defaulting value)).layout? another =
      .of [other]) :
    Sketch.Swaps [.text " DEFAULT ", piece] [.text " DEFAULT ", other]
      ((column.defaulting value).sketch mapper) ((column.defaulting another).sketch mapper) := by
  have clause (own : Value) : (column.defaulting own).sketch mapper =
      let type := mapper (column.defaulting own)
      .of ([.field column.name, .text " ", .text type.name, .text type.sizeText] ++ column.flags) ++
        (.of [.text " DEFAULT "] ++ defaultSketch type.layout? own) ++
        .of (Piece.options column.options) := rfl
  rw [clause, clause, type]
  dsimp only
  rw [written, otherWritten]
  exact Sketch.swapsFirst (Sketch.swapsSecond (Sketch.swapsOf [] []) _) _

end Column

namespace Table

variable {mapper : ColumnMapper} {table : Table} {first second : Column}
  {pieces others : List Piece}

def around (table : Table) (ahead behind : List Definition) (column : Column) : Table :=
  { table with definitions := ahead ++ .column column :: behind }

theorem aroundListed {column : Column} (listed : column ∈ table.columns) :
    (Definition.column column).column? table.operation = some column ∧
      ∃ ahead behind, table.around ahead behind column = table := by
  obtain ⟨definition, defined, written⟩ := List.mem_filterMap.mp listed
  have same := Definition.columnSource written
  subst same
  obtain ⟨ahead, behind, split⟩ := List.append_of_mem defined
  refine ⟨written, ahead, behind, ?_⟩
  rw [around, ← split]

theorem swapsCreated
    (swaps : Sketch.Swaps pieces others (first.sketch mapper) (second.sketch mapper))
    (ahead behind : List Definition) : Sketch.Swaps pieces others
      ((table.around ahead behind first).createSketch mapper)
      ((table.around ahead behind second).createSketch mapper) := by
  have some (column : Column) : (table.around ahead behind column).definitions.isEmpty = false := by
    cases ahead <;> rfl
  have listed (column : Column) :
      (table.around ahead behind column).definitions.map (·.sketch mapper) =
        ahead.map (·.sketch mapper) ++ column.sketch mapper :: behind.map (·.sketch mapper) :=
    List.map_append
  unfold createSketch
  rw [some, some, listed, listed]
  exact Sketch.swapsFirst (Sketch.swapsSecond (Sketch.swapsFirst
    (Sketch.swapsSecond (Sketch.swapsSeparated ", " swaps _ _) _) _) _) _

theorem swapsAltered (added : first.operation = .create) (otherAdded : second.operation = .create)
    (swaps : Sketch.Swaps pieces others (first.sketch mapper) (second.sketch mapper))
    (ahead behind : List Definition) : Sketch.Swaps pieces others
      ((table.around ahead behind first).alterSketch mapper)
      ((table.around ahead behind second).alterSketch mapper) := by
  have listed (column : Column) :
      (table.around ahead behind column).alterSketch mapper =
        .all (ahead.map (·.alterSketch mapper table) ++
          (Definition.column column).alterSketch mapper table ::
            behind.map (·.alterSketch mapper table)) :=
    congrArg Sketch.all List.map_append
  rw [listed, listed]
  refine Sketch.swapsAll ?_ _ _
  simp only [Definition.alterSketch, Definition.renamed?, Definition.changeSketch, added,
    otherAdded]
  exact Sketch.swapsFirst (Sketch.swapsSecond (Sketch.swapsSecond swaps _) _) _

theorem swapsColumn (written : (Definition.column first).column? table.operation = some first)
    (otherWritten : (Definition.column second).column? table.operation = some second)
    (swaps : Sketch.Swaps pieces others (first.sketch mapper) (second.sketch mapper))
    (ahead behind : List Definition) : Sketch.Swaps pieces others
      ((table.around ahead behind first).sketch mapper)
      ((table.around ahead behind second).sketch mapper) := by
  cases operation : table.operation with
  | create =>
    simp only [sketch, around, operation]
    exact swapsCreated swaps ahead behind
  | alter =>
    have added {column : Column}
        (own : (Definition.column column).column? table.operation = some column) :
        column.operation = .create := by
      simpa [Definition.column?, operation] using own
    simp only [sketch, around, operation]
    exact swapsAltered (added written) (added otherWritten) swaps ahead behind
  | rename => simp [Definition.column?, operation] at written
  | drop => simp [Definition.column?, operation] at written

end Table

end Sqlwright
