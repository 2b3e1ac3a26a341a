import Mathlib
import Sqlwright.Proofs.Mutation.Columns

/-! The cells of a bulk insert. Every row is a tuple with one slot for each field: a cell that is
not set is left to its default, and a cell that is set has the placeholder with the number of set
cells up to it, row by row. Without fields there are no tuples but one row of defaults, however
many rows were given. -/
namespace Sqlwright
open Identifier (Rules)

inductive RowSource where
  | defaults
  | tuples (grid : List (List String))

namespace RowSource

def tupleText (slots : List String) : String := "(" ++ ",".intercalate slots ++ ")"

def text : RowSource → String
  | .defaults => " DEFAULT VALUES"
  | .tuples grid => " VALUES " ++ ",".intercalate (grid.map tupleText)

def count : RowSource → Nat
  | .defaults => 1
  | .tuples grid => grid.length

def read (sql : String) : Nat := if sql = " DEFAULT VALUES" then 1 else sql.toList.count '('

def Plain : RowSource → Prop
  | .defaults => True
  | .tuples grid => ∀ slots ∈ grid, ∀ slot ∈ slots, '(' ∉ slot.toList

theorem countJoined (parts : List String) :
    (",".intercalate parts).toList.count '(' = (parts.map fun part => part.toList.count '(').sum := by
  induction parts with
  | nil => rfl
  | cons part rest ih =>
    cases rest with
    | nil => simp
    | cons next later =>
      have comma : ",".toList.count '(' = 0 := by decide
      rw [String.intercalate_cons_cons, String.toList_append, String.toList_append,
        List.count_append, List.count_append, comma, ih, List.map_cons, List.sum_cons]
      rfl

theorem countTuple {slots : List String} (plain : ∀ slot ∈ slots, '(' ∉ slot.toList) :
    (tupleText slots).toList.count '(' = 1 := by
  have none : (slots.map fun slot => slot.toList.count '(').sum = 0 := by
    refine List.sum_eq_zero fun size member => ?_
    obtain ⟨slot, inside, same⟩ := List.mem_map.mp member
    exact same ▸ List.count_eq_zero.mpr (plain slot inside)
  rw [tupleText, String.toList_append, String.toList_append, List.count_append,
    List.count_append, countJoined, none]
  rfl

theorem readText {source : RowSource} (plain : source.Plain) : read source.text = source.count := by
  cases source with
  | defaults => rfl
  | tuples grid =>
    have other : (tuples grid).text ≠ " DEFAULT VALUES" := by
      intro same
      have letters := congrArg (fun sql => sql.toList[1]?) same
      simp [text] at letters
    have each : grid.map (fun slots => (tupleText slots).toList.count '(') =
        grid.map fun _ => 1 :=
      List.map_congr_left fun slots member => countTuple (plain slots member)
    have lead : " VALUES ".toList.count '(' = 0 := by decide
    rw [read, if_neg other, text, String.toList_append, List.count_append, countJoined,
      List.map_map]
    show _ + (grid.map fun slots => (tupleText slots).toList.count '(').sum = _
    rw [each, lead]
    simp [count]

theorem textEnds (source : RowSource) : ∃ last, last ≠ 'F' ∧ [last] <:+ source.text.toList := by
  have joined : ∀ first rest, [')'] <:+ (",".intercalate ((first :: rest).map tupleText)).toList := by
    intro first rest
    induction rest generalizing first with
    | nil =>
      rw [List.map_singleton, String.intercalate_singleton]
      exact Piece.closesFurther _ (by decide)
    | cons next later ih =>
      rw [List.map_cons, List.map_cons, String.intercalate_cons_cons]
      exact Piece.closesFurther _ (ih next)
  cases source with
  | defaults => exact ⟨'S', by decide, by decide⟩
  | tuples grid =>
    cases grid with
    | nil => exact ⟨' ', by decide, by decide⟩
    | cons first rest => exact ⟨')', by decide, Piece.closesFurther _ (joined first rest)⟩

end RowSource

namespace Piece

theorem textsAt (config : Config) (count : Nat) (pieces : List Piece) (index : Nat) :
    (texts config count pieces)[index]? = pieces[index]?.map fun piece =>
      Token.joined config
        (piece.tokens config (count + (allBound config (pieces.take index)).length)) := by
  have single : ∀ pieces : List Piece, (pieces.map ([·])).flatten = pieces := fun pieces => by
    rw [← List.flatMap_def, List.flatMap_singleton']
  rw [← partTextsOne, partTextsAt, List.getElem?_map, ← List.map_take, single, Option.map_map]
  refine congrArg (Option.map · _) (funext fun piece => ?_)
  simp [allTokens]

end Piece

namespace BulkInsert

def slots (config : Config) (fields : List String) : Nat → List Changes → List (List String)
  | _, [] => []
  | count, row :: rest =>
      let cells := fields.map (cell row)
      Piece.texts config count cells ::
        slots config fields (count + (Piece.allBound config cells).length) rest

theorem slotsAt (config : Config) (fields : List String) (count : Nat) (rows : List Changes)
    (index : Nat) : (slots config fields count rows)[index]? = rows[index]?.map fun row =>
      Piece.texts config
        (count + (Piece.allBound config
          ((rows.take index).flatMap fun row => fields.map (cell row))).length)
        (fields.map (cell row)) := by
  induction rows generalizing count index with
  | nil => simp [slots]
  | cons row rest ih =>
    cases index with
    | zero => rfl
    | succ index =>
      rw [slots, List.getElem?_cons_succ, List.getElem?_cons_succ, ih, List.take_succ_cons,
        List.flatMap_cons, Piece.allBoundAppend, List.length_append, Nat.add_assoc]

theorem slotsLength (config : Config) (fields : List String) (count : Nat) (rows : List Changes) :
    (slots config fields count rows).length = rows.length := by
  induction rows generalizing count with
  | nil => rfl
  | cons row rest ih => rw [slots, List.length_cons, List.length_cons, ih]

def source (config : Config) (insert : BulkInsert) : RowSource :=
  if insert.fields.isEmpty then .defaults else .tuples (slots config insert.fields 0 insert.rows)

def text (config : Config) (insert : BulkInsert) : String :=
  Piece.switched config insert.bringsNumbers insert.table
    ("INSERT INTO " ++ (Rules.ofConfig config).escape insert.table ++
      Piece.columnsText config insert.fields ++ Piece.outputText config insert.primary ++
      (insert.source config).text ++ ";")

theorem boundTuple (config : Config) (fields : List String) (row : Changes) :
    Piece.allBound config (tuple fields row) = Piece.allBound config (fields.map (cell row)) := by
  have sites : Piece.allSites (tuple fields row) = Piece.allSites (fields.map (cell row)) := by
    rw [tuple, Piece.sitesEnclosed, Piece.sitesSeparated]
    simp [Piece.allSites, List.flatMap_map]
  rw [Piece.boundOfSites, Piece.boundOfSites, sites]

theorem tuplesOfTokens (config : Config) (fields : List String) (count : Nat)
    (rows : List Changes) : Piece.partTexts config count (rows.map (tuple fields)) =
      (slots config fields count rows).map RowSource.tupleText := by
  induction rows generalizing count with
  | nil => rfl
  | cons row rest ih =>
    have first : Token.joined config (Piece.allTokens config count (tuple fields row)) =
        RowSource.tupleText (Piece.texts config count (fields.map (cell row))) := by
      rw [tuple, Piece.enclosedOfTokens, RowSource.tupleText, ← Piece.separatedOfTokens,
        List.map_map]
      rfl
    rw [List.map_cons, Piece.partTexts, first, boundTuple, ih]
    rfl

theorem rowsOfTokens (config : Config) (insert : BulkInsert) :
    Token.joined config (Piece.allTokens config 0 insert.rowPieces) =
      (insert.source config).text := by
  unfold rowPieces source
  split
  · rfl
  · rw [Piece.textOfTokens, Piece.partsOfTokens, tuplesOfTokens]
    rfl

theorem textOfTokens (config : Config) (insert : BulkInsert) :
    Token.joined config (Piece.allTokens config 0 insert.pieces) = insert.text config := by
  unfold pieces text
  rw [Piece.insertOfTokens, rowsOfTokens]

def cellsInOrder (insert : BulkInsert) : List (Option Value) :=
  insert.rows.flatMap fun row => insert.fields.map row.value?

def rank (insert : BulkInsert) (row column : Nat) : Nat :=
  (insert.cellsInOrder.take (row * insert.fields.length + column + 1)).countP Option.isSome

def slot? (config : Config) (insert : BulkInsert) (row column : Nat) : Option String :=
  (slots config insert.fields 0 insert.rows)[row]?.bind (·[column]?)

theorem cellsReduced (insert : BulkInsert) : insert.cells = insert.cellsInOrder.reduceOption := by
  simp [cells, cellsInOrder, List.reduceOption, List.filterMap_flatMap, List.filterMap_map]

theorem boundRow {config : Config} (binds : config.inline = false) (fields : List String)
    (row : Changes) : Piece.allBound config (fields.map (cell row)) =
      (fields.map row.value?).reduceOption := by
  rw [← boundTuple, Piece.allBoundSites binds, sitesTuple, List.map_map, List.reduceOption,
    List.filterMap_map]
  exact List.map_id _

theorem boundRows {config : Config} (binds : config.inline = false) (fields : List String)
    (rows : List Changes) : Piece.allBound config (rows.flatMap fun row => fields.map (cell row)) =
      (rows.flatMap fun row => fields.map row.value?).reduceOption := by
  induction rows with
  | nil => rfl
  | cons row rest ih =>
    rw [List.flatMap_cons, List.flatMap_cons, Piece.allBoundAppend, ih, boundRow binds,
      List.reduceOption_append]

theorem boundOfPieces {config : Config} (binds : config.inline = false) (insert : BulkInsert) :
    Piece.allBound config insert.pieces = insert.cells := by
  rw [Piece.allBoundSites binds, sitesOfPieces, List.map_map]
  exact List.map_id _

variable {insert : BulkInsert} {i j : Nat} {row : Changes} {field : String}

def cellsBefore (insert : BulkInsert) (i j : Nat) (row : Changes) : List (Option Value) :=
  ((insert.rows.take i).flatMap fun row => insert.fields.map row.value?) ++
    (insert.fields.take j).map row.value?

theorem cellsAround (listed : insert.rows[i]? = some row) (named : insert.fields[j]? = some field) :
    (insert.cellsBefore i j row).length = i * insert.fields.length + j ∧
    ∃ after, insert.cellsInOrder = insert.cellsBefore i j row ++ row.value? field :: after := by
  obtain ⟨inRows, _⟩ := List.getElem?_eq_some_iff.mp listed
  obtain ⟨inFields, _⟩ := List.getElem?_eq_some_iff.mp named
  let cellsOf := fun row : Changes => insert.fields.map row.value?
  have line : cellsOf row = (insert.fields.take j).map row.value? ++
      row.value? field :: (insert.fields.drop (j + 1)).map row.value? := by
    simp only [cellsOf, List.map_eq_flatMap]
    exact flatMapAt _ named
  have whole : insert.cellsInOrder = (insert.rows.take i).flatMap cellsOf ++
      (cellsOf row ++ (insert.rows.drop (i + 1)).flatMap cellsOf) := flatMapAt cellsOf listed
  constructor
  · simp [cellsBefore, inRows.le, inFields.le]
  · refine ⟨(insert.fields.drop (j + 1)).map row.value? ++
      (insert.rows.drop (i + 1)).flatMap cellsOf, ?_⟩
    rw [whole, line, cellsBefore]
    simp only [List.append_assoc, List.cons_append]
    rfl

theorem rankAround (listed : insert.rows[i]? = some row) (named : insert.fields[j]? = some field) :
    insert.rank i j = (insert.cellsBefore i j row).reduceOption.length +
      (row.value? field).toList.length := by
  obtain ⟨size, after, around⟩ := cellsAround listed named
  have taken : insert.cellsInOrder.take (i * insert.fields.length + j + 1) =
      insert.cellsBefore i j row ++ [row.value? field] := by
    rw [around, ← size, List.take_length_add_append]
    rfl
  rw [rank, taken, List.countP_append, List.reduceOption_length_eq, List.countP_eq_length_filter]
  cases row.value? field <;> rfl

theorem slotOfCell {config : Config} (binds : config.inline = false)
    (listed : insert.rows[i]? = some row) (named : insert.fields[j]? = some field) :
    insert.slot? config i j = some (Token.joined config
      ((cell row field).tokens config (insert.cellsBefore i j row).reduceOption.length)) := by
  have before : (Piece.allBound config
        ((insert.rows.take i).flatMap fun row => insert.fields.map (cell row))).length +
      (Piece.allBound config ((insert.fields.map (cell row)).take j)).length =
      (insert.cellsBefore i j row).reduceOption.length := by
    rw [boundRows binds, ← List.map_take, boundRow binds, cellsBefore, List.reduceOption_append,
      List.length_append]
  rw [slot?, slotsAt, listed, Option.map_some, Option.bind_some, Piece.textsAt,
    List.getElem?_map, named, Nat.zero_add, before]
  rfl

theorem slotUnset {config : Config} (binds : config.inline = false)
    (listed : insert.rows[i]? = some row) (named : insert.fields[j]? = some field)
    (unset : row.value? field = none) : insert.slot? config i j = some "DEFAULT" := by
  rw [slotOfCell binds listed named, cell, unset]
  exact congrArg some String.append_empty

theorem slotSet {config : Config} (ordinal : config.ordinal = true)
    (binds : config.inline = false) (listed : insert.rows[i]? = some row)
    (named : insert.fields[j]? = some field) {value : Value} (set : row.value? field = some value) :
    insert.slot? config i j = some (config.placeholder ++ toString (insert.rank i j)) := by
  rw [slotOfCell binds listed named, rankAround listed named, cell, set]
  simp [Piece.tokens, binds, Token.joined, Token.sql, Statement.placeholder, ordinal]

theorem valueAtRank (listed : insert.rows[i]? = some row)
    (named : insert.fields[j]? = some field) {value : Value} (set : row.value? field = some value) :
    0 < insert.rank i j ∧ insert.cells[insert.rank i j - 1]? = some value := by
  obtain ⟨_, after, around⟩ := cellsAround listed named
  have rank := rankAround listed named
  rw [set] at around rank
  have place : insert.rank i j - 1 = (insert.cellsBefore i j row).reduceOption.length := by
    rw [rank]
    rfl
  refine ⟨by rw [rank]; exact Nat.succ_pos _, ?_⟩
  rw [cellsReduced, around, place, List.reduceOption_append, List.reduceOption_cons_of_some,
    List.getElem?_append_right le_rfl, Nat.sub_self]
  rfl

theorem bringsIff (insert : BulkInsert) : insert.bringsNumbers = true ↔
    insert.primary ≠ "" ∧ insert.primary ∈ insert.fields := by
  rw [bringsNumbers, Bool.and_eq_true, Bool.not_eq_true', String.isEmpty_eq_false_iff,
    List.contains_iff_mem]

theorem opensIff (config : Config) (insert : BulkInsert) :
    (Piece.switchText config insert.table true).toList <+: (insert.text config).toList ↔
      insert.bringsNumbers = true := by
  refine Piece.switchedOpens config insert.bringsNumbers insert.table ?_
  simp only [String.toList_append, List.append_assoc]
  exact List.IsPrefix.trans (by decide) (List.prefix_append _ _)

theorem closesIff (config : Config) (insert : BulkInsert) :
    (Piece.switchText config insert.table false).toList <:+ (insert.text config).toList ↔
      insert.bringsNumbers = true := by
  obtain ⟨last, other, rows⟩ := (insert.source config).textEnds
  exact Piece.switchedCloses config insert.bringsNumbers insert.table other
    (Piece.closesFurther _ rows)

theorem placeholderPlain {config : Config} (plain : '(' ∉ config.placeholder.toList)
    (position : Nat) : '(' ∉ (Statement.placeholder config position).toList := by
  have number : '(' ∉ (toString position).toList := by
    intro inside
    have digits : '(' ∈ Nat.toDigits 10 position := by simpa using inside
    have digit := Nat.isDigit_of_mem_toDigits (by decide) (by decide) digits
    simp at digit
  rw [Statement.placeholder, String.toList_append, List.mem_append, not_or]
  refine ⟨plain, ?_⟩
  split
  · exact number
  · exact List.not_mem_nil

theorem slotsPlain {config : Config} (binds : config.inline = false)
    (plain : '(' ∉ config.placeholder.toList) (fields : List String) (row : Changes)
    (count : Nat) : ∀ slot ∈ Piece.texts config count (fields.map (cell row)), '(' ∉ slot.toList := by
  have own : ∀ field count, '(' ∉ (Token.joined config ((cell row field).tokens config count)).toList := by
    intro field count
    rw [cell]
    cases row.value? field with
    | none =>
      show '(' ∉ ("DEFAULT" ++ "").toList
      decide
    | some value =>
      simp only [Piece.tokens, binds, Bool.false_eq_true, if_false, Token.joined, Token.sql,
        String.append_empty]
      exact placeholderPlain plain (count + 1)
  induction fields generalizing count with
  | nil => exact fun _ member => absurd member List.not_mem_nil
  | cons field rest ih =>
    intro slot member
    rcases List.mem_cons.mp member with rfl | later
    · exact own field count
    · exact ih _ slot later

theorem sourcePlain {config : Config} (binds : config.inline = false)
    (plain : '(' ∉ config.placeholder.toList) (insert : BulkInsert) :
    (insert.source config).Plain := by
  have grid : ∀ rows count, (RowSource.tuples (slots config insert.fields count rows)).Plain := by
    intro rows
    induction rows with
    | nil => exact fun _ _ member => absurd member List.not_mem_nil
    | cons row rest ih =>
      intro count tuple member
      rcases List.mem_cons.mp member with rfl | later
      · exact slotsPlain binds plain insert.fields row count
      · exact ih _ tuple later
  unfold source
  split
  · trivial
  · exact grid insert.rows 0

structure Filled (config : Config) (insert : BulkInsert) (statement : Statement) : Prop where
  text : statement.sql = Piece.switched config insert.bringsNumbers insert.table
    ("INSERT INTO " ++ (Rules.ofConfig config).escape insert.table ++
      Piece.columnsText config insert.fields ++ Piece.outputText config insert.primary ++
      (RowSource.tuples (slots config insert.fields 0 insert.rows)).text ++ ";")
  height : (slots config insert.fields 0 insert.rows).length = insert.rows.length
  width : ∀ tuple ∈ slots config insert.fields 0 insert.rows, tuple.length = insert.fields.length
  unset : ∀ i j row field, insert.rows[i]? = some row → insert.fields[j]? = some field →
    (∀ value, row.find? field ≠ some (.set value)) → insert.slot? config i j = some "DEFAULT"
  set : ∀ i j row field value, insert.rows[i]? = some row → insert.fields[j]? = some field →
    row.find? field = some (.set value) →
    insert.slot? config i j = some (config.placeholder ++ toString (insert.rank i j)) ∧
    0 < insert.rank i j ∧ statement.arguments[insert.rank i j - 1]? = some value
  arguments : statement.arguments = insert.cells
  opens : (Piece.switchText config insert.table true).toList <+: statement.sql.toList ↔
    insert.primary ≠ "" ∧ insert.primary ∈ insert.fields
  closes : (Piece.switchText config insert.table false).toList <:+ statement.sql.toList ↔
    insert.primary ≠ "" ∧ insert.primary ∈ insert.fields

theorem slotsWidth (config : Config) (fields : List String) (rows : List Changes) (count : Nat) :
    ∀ tuple ∈ slots config fields count rows, tuple.length = fields.length := by
  have size : ∀ (pieces : List Piece) count, (Piece.texts config count pieces).length =
      pieces.length := by
    intro pieces
    induction pieces with
    | nil => exact fun _ => rfl
    | cons piece rest ih => exact fun _ => congrArg Nat.succ (ih _)
  induction rows generalizing count with
  | nil => exact fun _ member => absurd member List.not_mem_nil
  | cons row rest ih =>
    intro tuple member
    rcases List.mem_cons.mp member with rfl | later
    · rw [size, List.length_map]
    · exact ih _ tuple later

theorem written (config : Config) (mapper : ColumnMapper) (history : List Command)
    (insert : BulkInsert) : (((Dialect.new config mapper).after history).insertAll insert).1 =
      ⟨insert.text config, Piece.allBound config insert.pieces⟩ := by
  rw [Dialect.insertAll, Dialect.writeAfter, Statement.extendedEmpty, textOfTokens]

end BulkInsert

theorem cellsHoldValues {config : Config} (ordinal : config.ordinal = true)
    (binds : config.inline = false) (mapper : ColumnMapper) (history : List Command)
    (insert : BulkInsert) (named : insert.fields ≠ []) :
    insert.Filled config (((Dialect.new config mapper).after history).insertAll insert).1 := by
  have tuples : insert.source config =
      .tuples (BulkInsert.slots config insert.fields 0 insert.rows) := by
    rw [BulkInsert.source, if_neg (by simpa using named)]
  rw [BulkInsert.written, BulkInsert.boundOfPieces binds]
  refine ⟨by rw [← tuples]; rfl, BulkInsert.slotsLength .., BulkInsert.slotsWidth _ _ _ _,
    fun i j row field listed column unset => ?_, fun i j row field value listed column found => ?_,
    rfl, (insert.opensIff config).trans insert.bringsIff,
    (insert.closesIff config).trans insert.bringsIff⟩
  · refine BulkInsert.slotUnset binds listed column (Option.eq_none_iff_forall_ne_some.mpr ?_)
    exact fun value set => unset value (Changes.valueIff.mp set)
  · have set := Changes.valueIff.mpr found
    exact ⟨BulkInsert.slotSet ordinal binds listed column set,
      BulkInsert.valueAtRank listed column set⟩

def BulkInsert.seats : BulkInsert where
  table := "seat"
  primary := "id"
  fields := ["row", "id", "row"]
  rows := [.ofList [("row", .set (.int 2)), ("taken", .set (.bool true))],
    .ofList [("row", .increase (.int 1)), ("id", .set (.int 7))],
    .ofList [("id", .set .null), ("row", .set (.int 3))]]

theorem seatCellsHoldValues :
    let dialect := (Dialect.new {} Column.nativeType).after [.escape "row"]
    BulkInsert.seats.fields ≠ [] ∧ BulkInsert.seats.Filled {} (dialect.insertAll .seats).1 ∧
    (dialect.insertAll .seats).1 = ⟨"SET IDENTITY_INSERT [seat] ON; " ++
      "INSERT INTO [seat] ([row],[id],[row]) OUTPUT [INSERTED].[id] VALUES " ++
      "(@p1,DEFAULT,@p2),(DEFAULT,@p3,DEFAULT),(@p4,@p5,@p6); SET IDENTITY_INSERT [seat] OFF;",
      [.int 2, .int 2, .int 7, .int 3, .null, .int 3]⟩ := by
  have named : BulkInsert.seats.fields ≠ [] := by decide
  refine ⟨named, cellsHoldValues rfl rfl Column.nativeType [.escape "row"] .seats named, ?_⟩
  cbv

theorem tuplesInsertRows (config : Config) (mapper : ColumnMapper) (history : List Command)
    (insert : BulkInsert) :
    let statement := (((Dialect.new config mapper).after history).insertAll insert).1
    let source := insert.source config
    statement.sql = Piece.switched config insert.bringsNumbers insert.table
      ("INSERT INTO " ++ (Rules.ofConfig config).escape insert.table ++
        Piece.columnsText config insert.fields ++ Piece.outputText config insert.primary ++
        source.text ++ ";") ∧
    (source.count = insert.rows.length ↔ insert.fields ≠ [] ∨ insert.rows.length = 1) ∧
    (config.inline = false → '(' ∉ config.placeholder.toList →
      RowSource.read source.text = source.count) := by
  intro statement source
  have written : statement = _ := BulkInsert.written config mapper history insert
  refine ⟨by rw [written]; rfl, ?_, fun binds plain =>
    RowSource.readText (BulkInsert.sourcePlain binds plain insert)⟩
  simp only [source, BulkInsert.source]
  cases fields : insert.fields with
  | nil => simp [RowSource.count, eq_comm]
  | cons field rest => simp [RowSource.count, BulkInsert.slotsLength]

theorem seatRowsInserted :
    let source := BulkInsert.seats.source {}
    Config.inline {} = false ∧ '(' ∉ (Config.placeholder {}).toList ∧
    source.text = " VALUES (@p1,DEFAULT,@p2),(DEFAULT,@p3,DEFAULT),(@p4,@p5,@p6)" ∧
    source.count = BulkInsert.seats.rows.length ∧ RowSource.read source.text = 3 := by
  intro source
  have plain : '(' ∉ (Config.placeholder {}).toList := by decide
  obtain ⟨_, count, read⟩ := tuplesInsertRows {} Column.nativeType [.escape "row"] .seats
  have three : source.count = BulkInsert.seats.rows.length := count.mpr (.inl (by decide))
  have written : (BulkInsert.seats.source {}).text =
      " VALUES (@p1,DEFAULT,@p2),(DEFAULT,@p3,DEFAULT),(@p4,@p5,@p6)" := by cbv
  exact ⟨rfl, plain, written, three, (read rfl plain).trans three⟩

def BulkInsert.bare : BulkInsert := ⟨"seat", "id", [], [.empty, .empty]⟩

theorem secondRowLost :
    (Dialect.standard.insertAll .bare).1 =
      ⟨"INSERT INTO [seat] OUTPUT [INSERTED].[id] DEFAULT VALUES;", []⟩ ∧
    BulkInsert.bare.rows ≠ [] ∧
    (BulkInsert.bare.source {}).text = " DEFAULT VALUES" ∧
    (BulkInsert.bare.source {}).count ≠ BulkInsert.bare.rows.length := by
  refine ⟨by cbv, by decide, rfl, by decide⟩

end Sqlwright
