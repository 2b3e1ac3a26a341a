import Mathlib
import Sqlwright.Proofs.Dialect.History
import Sqlwright.Proofs.Identifier.Kept
import Sqlwright.Proofs.Schema.Index
import Sqlwright.Proofs.Text.Delimited

/-! Names of objects that schema statements put between single quotes. They are escaped as
identifiers and not as literals, so such a literal reads back as the name exactly if no quote
stands in it; with a quote it ends early or swallows what follows. -/
namespace Sqlwright
open Identifier (Rules)

namespace Sketch

theorem openParts {first second : Sketch} (done : (first ++ second).obstacle? = none) :
    first.obstacle? = none ∧ (first ++ second).pieces = first.pieces ++ second.pieces := by
  obtain ⟨pieces, obstacle?⟩ := first
  cases obstacle? with
  | some obstacle => cases done
  | none => exact ⟨rfl, rfl⟩

end Sketch

namespace Table

theorem guardedCreate (mapper : ColumnMapper) {table : Table} (created : table.operation = .create)
    (optional : table.optional = true) :
    ∃ more, (table.sketch mapper).pieces = Piece.tableGuard table.name "IS NULL" ++ more := by
  have sketch : table.sketch mapper = table.createSketch mapper := by rw [sketch, created]
  rw [sketch, createSketch, Sketch.appendAssoc, if_pos optional]
  exact ⟨_, List.append_assoc ..⟩

theorem guardedDrop (mapper : ColumnMapper) {table : Table} (dropped : table.operation = .drop)
    (optional : table.optional = true) :
    ∃ more, (table.sketch mapper).pieces = Piece.tableGuard table.name "IS NOT NULL" ++ more := by
  have sketch : table.sketch mapper = .of table.dropPieces := by rw [sketch, dropped]
  rw [sketch, dropPieces, if_pos optional]
  exact ⟨_, rfl⟩

theorem renamedParts {mapper : ColumnMapper} {table : Table} {before after : List Definition}
    {column : Column} (altered : table.operation = .alter)
    (defined : table.definitions = before ++ .column column :: after)
    (renamed : column.operation = .rename) (done : (table.sketch mapper).obstacle? = none) :
    let earlier := Table.sketch mapper { table with definitions := before }
    earlier.obstacle? = none ∧ ∃ more, (table.sketch mapper).pieces =
      earlier.pieces ++ (Definition.renamePieces table.name column ++ more) := by
  intro earlier
  have earlierIs : earlier = .all (before.map (·.alterSketch mapper table)) := by
    simp only [earlier, sketch, altered]
    rfl
  have here : (Definition.column column).alterSketch mapper table =
      .of (Definition.renamePieces table.name column) := by
    simp only [Definition.alterSketch, Definition.renamed?, if_pos renamed]
  have whole : table.sketch mapper = earlier ++ (.of (Definition.renamePieces table.name column) ++
      .all (after.map (·.alterSketch mapper table))) := by
    rw [earlierIs, sketch, altered, ← here]
    show Sketch.all (table.definitions.map _) = _
    rw [defined, List.map_append, Sketch.allAppend]
    rfl
  rw [whole] at done ⊢
  obtain ⟨open?, pieces⟩ := Sketch.openParts done
  exact ⟨open?, _, pieces⟩

end Table

namespace Statement

/-- The name of an object stands between single quotes behind `lead`. Reading from the first of
them on, it is found whole and nothing else is, exactly if none of its parts has a quote. -/
def Names (statement : Statement) (lead object : String) (parts : List String) : Prop :=
  ∃ rest : String, statement.sql = lead ++ "'" ++ object ++ "'" ++ rest ∧
    (Text.delimited? '\'' (object ++ "'" ++ rest).toList = some (object.toList, rest.toList) ↔
      ∀ part ∈ parts, '\'' ∉ part.toList)

theorem namesOf {statement : Statement} {lead object rest : String} {parts : List String}
    (sql : statement.sql = lead ++ "'" ++ object ++ "'" ++ rest)
    (ends : rest.toList.head? ≠ some '\'')
    (quotes : '\'' ∈ object.toList ↔ ∃ part ∈ parts, '\'' ∈ part.toList) :
    statement.Names lead object parts := by
  refine ⟨rest, sql, ?_⟩
  have around : (object ++ "'" ++ rest).toList = object.toList ++ '\'' :: rest.toList := by
    simp [String.toList_append]
  rw [around, Text.readPlain ends, quotes]
  simp only [not_exists, not_and]

theorem namesEscaped {statement : Statement} {lead rest name : String}
    (sql : statement.sql = lead ++ "'" ++ (Rules.ofConfig {}).escape name ++ "'" ++ rest)
    (ends : rest.toList.head? ≠ some '\'') :
    statement.Names lead ((Rules.ofConfig {}).escape name) [name] := by
  refine namesOf sql ends ?_
  rw [Rules.memEscape Rules.quoteInert]
  simp

end Statement

namespace Piece

theorem guardText (config : Config) (table check : String) (more : List Piece) :
    ∃ rest : String, rest.toList.head? ≠ some '\'' ∧
      Token.joined config (allTokens config 0 (tableGuard table check ++ more)) =
        "IF OBJECT_ID(" ++ "'" ++ (Rules.ofConfig config).escape table ++ "'" ++ rest := by
  have opening : "IF OBJECT_ID('" = "IF OBJECT_ID(" ++ "'" := rfl
  have closing : "', 'U') " = "'" ++ ", 'U') " := rfl
  refine ⟨", 'U') " ++ (check ++ (" " ++ Token.joined config (allTokens config 0 more))),
    by simp [String.toList_append], ?_⟩
  rw [tableGuard, opening, closing]
  simp only [List.cons_append, List.nil_append, textOfTokens, fieldOfTokens, String.append_assoc]

theorem renameText (config : Config) (count : Nat) (table : String) (column : Column)
    (more : List Piece) :
    ∃ rest : String, rest.toList.head? ≠ some '\'' ∧
      Token.joined config
          (allTokens config count (Definition.renamePieces table column ++ more)) =
        "EXEC sp_rename " ++ "'" ++ ((Rules.ofConfig config).escape table ++ "." ++
          (Rules.ofConfig config).escape column.name) ++ "'" ++ rest := by
  have opening : "EXEC sp_rename '" = "EXEC sp_rename " ++ "'" := rfl
  have closing : "', " = "'" ++ ", " := rfl
  refine ⟨", " ++ ((Rules.ofConfig config).escape column.rename ++ (", 'COLUMN';" ++
    Token.joined config (allTokens config count more))), by simp [String.toList_append], ?_⟩
  rw [Definition.renamePieces, opening, closing]
  simp only [List.cons_append, List.nil_append, textOfTokens, fieldOfTokens, String.append_assoc]

theorem absenceText (config : Config) (index : Index) (more : List Piece) :
    ∃ rest : String, rest.toList.head? ≠ some '\'' ∧
      Token.joined config (allTokens config 0 (index.absenceGuard ++ more)) =
        "IF NOT EXISTS (SELECT 1 FROM sys.indexes WHERE name = " ++ config.quoted index.name ++
          " AND object_id = OBJECT_ID(" ++ "'" ++ (Rules.ofConfig config).escape index.table ++
          "'" ++ rest := by
  have opening : " AND object_id = OBJECT_ID('" = " AND object_id = OBJECT_ID(" ++ "'" := rfl
  have closing : "')) " = "'" ++ ")) " := rfl
  refine ⟨")) " ++ Token.joined config (allTokens config 0 more),
    by simp [String.toList_append], ?_⟩
  rw [Index.absenceGuard, opening, closing]
  simp only [List.cons_append, List.nil_append, textOfTokens, fieldOfTokens, quotedOfTokens,
    String.append_assoc]

end Piece

namespace Dialect

variable {mapper : ColumnMapper} {history : List Command} {statement : Statement}

theorem tableWritten {table : Table}
    (built : (((new {} mapper).after history).table table).1 = .ok statement) :
    (table.sketch mapper).obstacle? = none ∧ statement =
      Statement.empty.extended (Config.inlined {}) (table.sketch mapper).pieces := by
  have same : ((new {} mapper).after history).mapper = mapper := afterMapper _ history
  rw [Dialect.table, same, writeSchemaAfter] at built
  exact Sketch.outcomeOk built

theorem guardNames {table : Table} (optional : table.optional = true)
    (guarded : table.operation = .create ∨ table.operation = .drop)
    (built : (((new {} mapper).after history).table table).1 = .ok statement) :
    statement.Names "IF OBJECT_ID(" ((Rules.ofConfig {}).escape table.name) [table.name] := by
  obtain ⟨check, more, pieces⟩ : ∃ check more,
      (table.sketch mapper).pieces = Piece.tableGuard table.name check ++ more := by
    rcases guarded with created | dropped
    · exact ⟨_, Table.guardedCreate mapper created optional⟩
    · exact ⟨_, Table.guardedDrop mapper dropped optional⟩
  obtain ⟨_, written⟩ := tableWritten built
  obtain ⟨rest, ends, text⟩ := Piece.guardText (Config.inlined {}) table.name check more
  refine Statement.namesEscaped ?_ ends
  rw [written, Statement.extendedEmpty, pieces]
  exact text

theorem renameNames {table : Table} {before after : List Definition} {column : Column}
    (altered : table.operation = .alter)
    (defined : table.definitions = before ++ .column column :: after)
    (renamed : column.operation = .rename)
    (built : (((new {} mapper).after history).table table).1 = .ok statement) :
    ∃ earlier, (((new {} mapper).after history).table
        { table with definitions := before }).1 = .ok earlier ∧
      statement.Names (earlier.sql ++ "EXEC sp_rename ")
        ((Rules.ofConfig {}).escape table.name ++ "." ++ (Rules.ofConfig {}).escape column.name)
        [table.name, column.name] := by
  obtain ⟨done, written⟩ := tableWritten built
  obtain ⟨unstopped, more, pieces⟩ := Table.renamedParts altered defined renamed done
  let earlier := Statement.empty.extended (Config.inlined {})
    (Table.sketch mapper { table with definitions := before }).pieces
  have first : (((new {} mapper).after history).table { table with definitions := before }).1 =
      .ok earlier := by
    have same : ((new {} mapper).after history).mapper = mapper := afterMapper _ history
    rw [Dialect.table, same, writeSchemaAfter, Sketch.outcomeOpen unstopped]
  obtain ⟨rest, ends, text⟩ := Piece.renameText (Config.inlined {}) earlier.arguments.length
    table.name column more
  refine ⟨earlier, first, Statement.namesOf ?_ ends ?_⟩
  · have whole : statement = earlier.extended (Config.inlined {})
        (Definition.renamePieces table.name column ++ more) := by
      rw [written, pieces, Statement.extendedAppend]
    rw [whole]
    show earlier.sql ++ Token.joined _ _ = _
    rw [text]
    simp only [String.append_assoc]
    rfl
  · simp [String.toList_append, Rules.memEscape Rules.quoteInert]

theorem absenceNames (mapper : ColumnMapper) (history : List Command) {index : Index}
    (optional : index.optional = true) (created : index.operation = .create) :
    ∃ statement, (((new {} mapper).after history).index index).1 = .ok statement ∧
      statement.Names
        ("IF NOT EXISTS (SELECT 1 FROM sys.indexes WHERE name = " ++ Config.quoted {} index.name ++
          " AND object_id = OBJECT_ID(")
        ((Rules.ofConfig {}).escape index.table) [index.table] := by
  obtain ⟨more, pieces⟩ : ∃ more, index.sketch.pieces = index.absenceGuard ++ more := by
    rw [Index.sketchCreate created, Index.leadPieces, if_pos optional]
    simp only [Sketch.of, List.append_assoc]
    exact ⟨_, rfl⟩
  have built : (((new {} mapper).after history).index index).1 =
      .ok (Statement.empty.extended (Config.inlined {}) index.sketch.pieces) := by
    rw [Dialect.index, writeSchemaAfter, Index.sketchCreate created, Sketch.outcomeOpen rfl]
  obtain ⟨rest, ends, text⟩ := Piece.absenceText (Config.inlined {}) index more
  refine ⟨_, built, Statement.namesEscaped ?_ ends⟩
  rw [Statement.extendedEmpty, pieces]
  exact text

end Dialect

theorem objectNamesRead (mapper : ColumnMapper) (history : List Command) :
    let dialect := (Dialect.new {} mapper).after history
    let escaped := (Rules.ofConfig {}).escape
    (∀ (table : Table) (statement : Statement), table.optional = true →
      table.operation = .create ∨ table.operation = .drop →
      (dialect.table table).1 = .ok statement →
      statement.Names "IF OBJECT_ID(" (escaped table.name) [table.name]) ∧
    (∀ (table : Table) (before after : List Definition) (column : Column)
      (statement : Statement), table.operation = .alter →
      table.definitions = before ++ .column column :: after → column.operation = .rename →
      (dialect.table table).1 = .ok statement →
      ∃ earlier, (dialect.table { table with definitions := before }).1 = .ok earlier ∧
        statement.Names (earlier.sql ++ "EXEC sp_rename ")
          (escaped table.name ++ "." ++ escaped column.name) [table.name, column.name]) ∧
    ∀ index : Index, index.optional = true → index.operation = .create →
      ∃ statement, (dialect.index index).1 = .ok statement ∧
        statement.Names
          ("IF NOT EXISTS (SELECT 1 FROM sys.indexes WHERE name = " ++
            Config.quoted {} index.name ++ " AND object_id = OBJECT_ID(")
          (escaped index.table) [index.table] := by
  intro dialect escaped
  refine ⟨?_, ?_, ?_⟩
  · intro table statement optional guarded built
    exact Dialect.guardNames optional guarded built
  · intro table before after column statement altered defined renamed built
    exact Dialect.renameNames altered defined renamed built
  · intro index optional created
    exact Dialect.absenceNames mapper history optional created

def Table.guarded (operation : Operation) (name : String) : Table where
  operation := operation
  name := name
  rename := ""
  optional := true
  options := ""
  definitions := []

def Table.renaming (name column : String) : Table :=
  { Table.guarded .alter name with
    definitions := [.raw "REBUILD", .column
      { name := column, kind := .int, operation := .rename, rename := "title", unique := false,
        required := false, primary := false, limit := 0, precision := 0, scale := 0,
        default? := none, options := "" }] }

def Index.guarded (table : String) : Index :=
  { Index.filtered .empty with table := table, name := "o'clock", unique := false }

theorem bracketedNamesRead :
    let dialect := Dialect.new {} Column.nativeType
    (∃ statement, (dialect.table (.guarded .drop "dbo.fi]lm")).1 = .ok statement ∧
      statement.Names "IF OBJECT_ID(" "[dbo].[fi]]lm]" ["dbo.fi]lm"]) ∧
    (∃ statement, (dialect.table (.renaming "film" "old")).1 = .ok statement ∧
      statement.Names ("ALTER TABLE [film] REBUILD;" ++ "EXEC sp_rename ") "[film].[old]"
        ["film", "old"]) ∧
    ∃ statement, (dialect.index (.guarded "film")).1 = .ok statement ∧
      statement.Names ("IF NOT EXISTS (SELECT 1 FROM sys.indexes WHERE name = " ++
        Config.quoted {} "o'clock" ++ " AND object_id = OBJECT_ID(") "[film]" ["film"] := by
  intro dialect
  obtain ⟨guards, renames, indexes⟩ := objectNamesRead Column.nativeType []
  have dropped : (Rules.ofConfig {}).escape "dbo.fi]lm" = "[dbo].[fi]]lm]" := by cbv
  have film : (Rules.ofConfig {}).escape "film" = "[film]" := by cbv
  have column : (Rules.ofConfig {}).escape "film" ++ "." ++ (Rules.ofConfig {}).escape "old" =
      "[film].[old]" := by cbv
  refine ⟨⟨_, rfl, ?_⟩, ⟨_, rfl, ?_⟩, ?_⟩
  · rw [← dropped]
    exact guards (.guarded .drop "dbo.fi]lm") _ rfl (.inr rfl) rfl
  · obtain ⟨earlier, first, names⟩ := renames (.renaming "film" "old") [.raw "REBUILD"] [] _ _
      rfl rfl rfl rfl
    have text : earlier.sql = "ALTER TABLE [film] REBUILD;" := by
      rw [← Except.ok.inj first]
      cbv
    rw [← text, ← column]
    exact names
  · rw [← film]
    exact indexes (.guarded "film") rfl rfl

theorem quoteEndsName :
    let dialect := Dialect.new {} Column.nativeType
    (dialect.table (.guarded .create "o'brien")).1 =
      .ok ⟨"IF OBJECT_ID('[o'brien]', 'U') IS NULL CREATE TABLE [o'brien];", []⟩ ∧
    Text.delimited? '\'' "[o'brien]', 'U') IS NULL CREATE TABLE [o'brien];".toList =
      some ("[o".toList, "brien]', 'U') IS NULL CREATE TABLE [o'brien];".toList) ∧
    (dialect.table (.renaming "o'" "a")).1 =
      .ok ⟨"ALTER TABLE [o'] REBUILD;EXEC sp_rename '[o'].[a]', [title], 'COLUMN';", []⟩ ∧
    Text.delimited? '\'' "[o'].[a]', [title], 'COLUMN';".toList =
      some ("[o".toList, "].[a]', [title], 'COLUMN';".toList) ∧
    (dialect.index (.guarded "a''b")).1 =
      .ok ⟨"IF NOT EXISTS (SELECT 1 FROM sys.indexes WHERE name = 'o''clock' AND object_id = " ++
        "OBJECT_ID('[a''b]')) CREATE INDEX [o'clock] ON [a''b] ([year]);", []⟩ ∧
    Text.delimited? '\'' "[a''b]')) CREATE INDEX [o'clock] ON [a''b] ([year]);".toList =
      some ("[a'b]".toList, ")) CREATE INDEX [o'clock] ON [a''b] ([year]);".toList) := by
  refine ⟨?_, ?_, ?_, ?_, ?_, ?_⟩ <;> cbv

end Sqlwright
