import Mathlib
import Sqlwright.Proofs.Dialect.Return
import Sqlwright.Proofs.Mutation.Fence
import Sqlwright.Proofs.Schema.Default
import Sqlwright.Proofs.Schema.Fence
import Sqlwright.Proofs.Statement.Text

/-! Literals in the statements of a dialect. Whatever was written before, a text between quotes is
read back whole, what comes after it is left as it is, and another text in its place changes
nothing around it. So no text that is written out can go on as a part of the statement. -/
namespace Sqlwright

namespace Command

def spells (config : Config) : Command → Bool
  | .table _ => true
  | .index _ => true
  | _ => config.inline

variable {config : Config} {mapper : ColumnMapper}

theorem spelledOutcome {command : Command} (spelled : command.spells config = true)
    {statement : Statement} (done : command.outcome config mapper = .ok statement) :
    statement = Statement.empty.extended config.inlined (command.pieces mapper) := by
  have inlined (inline : config.inline = true) : config.inlined = config := by
    rw [Config.inlined, ← inline]
  cases command with
  | escape field =>
    cases done
    rw [Statement.extendedEmpty]
    exact congrArg (Statement.mk · []) String.append_empty.symm
  | table t => exact (Sketch.outcomeOk done).2
  | index i => exact (Sketch.outcomeOk done).2
  | _ =>
    rw [inlined spelled]
    exact (Except.ok.inj done).symm

theorem fencedPieces (mapper : ColumnMapper) (command : Command) :
    Piece.Fenced (command.pieces mapper) := by
  cases command with
  | escape field => exact Piece.fencedPlain rfl
  | query q => exact q.fencedStatement
  | insert i => exact i.fencedPieces
  | insertAll i => exact i.fencedPieces
  | update u => exact u.fencedPieces
  | delete d => exact d.fencedPieces
  | table t => exact t.fencedSketch mapper
  | index i => exact i.fencedSketch

end Command

/-- The literal of a text in a statement, with what stands before and after it. Read from its
first quote on it comes to the text and to what stands after it. -/
structure Statement.Quotes (config : Config) (mark : Char) (statement : Statement)
    (lead content tail : String) : Prop where
  sql : statement.sql = lead ++ config.quoted content ++ tail
  fenced : ∀ c ∈ tail.toList.head?, c ∈ Piece.fences
  read : mark ∉ Piece.fences →
    Text.literal? mark (config.quoted content ++ tail).toList = some (content.toList, tail.toList)

theorem Config.DoublesQuote.quotes {config : Config} {mark : Char}
    (doubles : config.DoublesQuote mark) {statement : Statement} {lead content tail : String}
    (sql : statement.sql = lead ++ config.quoted content ++ tail)
    (fenced : ∀ c ∈ tail.toList.head?, c ∈ Piece.fences) :
    statement.Quotes config mark lead content tail := by
  refine ⟨sql, fenced, fun outside => ?_⟩
  rw [String.toList_append, doubles.read]
  exact fun starts => outside (fenced mark starts)

namespace Dialect

variable {config : Config} {mark : Char} {mapper : ColumnMapper} {history : List Command}

theorem quotesAt (doubles : config.DoublesQuote mark) {command : Command} {statement : Statement}
    {before after : List Piece} {piece : Piece} {content : String}
    (spelled : command.spells config = true)
    (built : (((new config mapper).after history).run command).1 = .ok statement)
    (pieces : command.pieces mapper = before ++ piece :: after)
    (quoted : piece.quotedText? = some content) :
    statement.Quotes config mark (Piece.textBefore config before) content
        (Piece.textBehind config before after) ∧
      statement.arguments = Piece.allBound config.inlined (before ++ after) := by
  rw [returnAfter] at built
  have written := Command.spelledOutcome spelled built
  rw [pieces, Piece.literalInPlace (Piece.literalOfText config quoted)] at written
  have fenced := command.fencedPieces mapper
  rw [pieces] at fenced
  have opens := Piece.fencedAt fenced (Piece.literalOfQuoted quoted)
  rw [written]
  exact ⟨doubles.quotes rfl (Piece.joinedOpens config.inlined _ opens), rfl⟩

theorem anotherAt (config : Config) (mapper : ColumnMapper) (history : List Command)
    {piece : Piece} {content : String} (quoted : piece.quotedText? = some content)
    (before after : List Piece) :
    (((new config mapper).after history).writeSchema (.of (before ++ piece :: after))).1 =
      .ok ⟨Piece.textBefore config before ++ config.quoted content ++
        Piece.textBehind config before after, Piece.allBound config.inlined (before ++ after)⟩ := by
  rw [writeSchemaAfter, Sketch.outcomeOf]
  exact congrArg Except.ok (Piece.literalInPlace (Piece.literalOfText config quoted) before after)

theorem defaultsQuoted (doubles : config.DoublesQuote mark) {table : Table} {column : Column}
    {value another : Value} {content other : String} {ahead behind : List Definition}
    {statement : Statement}
    (type : mapper (column.defaulting another) = mapper (column.defaulting value))
    (listed : (Definition.column column).column? table.operation = some column)
    (quoted : Column.defaultText? (mapper (column.defaulting value)).layout? value = some content)
    (otherQuoted :
      Column.defaultText? (mapper (column.defaulting value)).layout? another = some other)
    (built : (((new config mapper).after history).run
      (.table (table.around ahead behind (column.defaulting value)))).1 = .ok statement) :
    ∃ lead tail changed,
      (((new config mapper).after history).run
        (.table (table.around ahead behind (column.defaulting another)))).1 = .ok changed ∧
      statement.Quotes config mark (lead ++ " DEFAULT ") content tail ∧
      changed.Quotes config mark (lead ++ " DEFAULT ") other tail := by
  obtain ⟨piece, text, written⟩ := Column.defaultQuoted quoted
  obtain ⟨otherPiece, otherText, otherWritten⟩ := Column.defaultQuoted otherQuoted
  have swaps := Table.swapsColumn (Column.defaultingListed listed value)
    (Column.defaultingListed listed another) (Column.swapsDefault type written otherWritten)
    ahead behind
  have outcome (value : Value) : (((new config mapper).after history).run
      (.table (table.around ahead behind (column.defaulting value)))).1 =
        ((table.around ahead behind (column.defaulting value)).sketch mapper).outcome config :=
    returnAfter config mapper history _
  have unstopped := (Sketch.outcomeOk ((outcome value).symm.trans built)).1
  have otherBuilt := (outcome another).trans
    (Sketch.outcomeOpen (swaps.stops.trans unstopped))
  obtain ⟨before, after, pieces, otherPieces⟩ := swaps.places unstopped
  have lead : Piece.textBefore config (before ++ [.text " DEFAULT "]) =
      Piece.textBefore config before ++ " DEFAULT " := by
    rw [Piece.textBefore, Piece.allTokensAppend, Token.joinedAppend, Piece.textAlone]
    rfl
  have split (piece : Piece) : before ++ [.text " DEFAULT ", piece] ++ after =
      (before ++ [.text " DEFAULT "]) ++ piece :: after := by
    simp only [List.append_assoc, List.cons_append, List.nil_append]
  have quotes := (quotesAt doubles rfl built (pieces.trans (split piece)) text).1
  have otherQuotes := (quotesAt doubles rfl otherBuilt
    (otherPieces.trans (split otherPiece)) otherText).1
  rw [lead] at quotes otherQuotes
  exact ⟨_, _, _, otherBuilt, quotes, otherQuotes⟩

theorem defaultQuotes (doubles : config.DoublesQuote mark) {table : Table}
    {statement : Statement} {column : Column} {value : Value} {content : String}
    (listed : column ∈ table.columns) (default : column.default? = some value)
    (quoted : Column.defaultText? (mapper column).layout? value = some content)
    (built : (((new config mapper).after history).run (.table table)).1 = .ok statement) :
    ∃ lead tail, statement.Quotes config mark (lead ++ " DEFAULT ") content tail := by
  obtain ⟨own, ahead, behind, around⟩ := Table.aroundListed listed
  rw [← around, ← Column.defaultingOwn default] at built
  rw [← Column.defaultingOwn default] at quoted
  obtain ⟨lead, tail, -, -, quotes, -⟩ := defaultsQuoted doubles rfl own quoted quoted built
  exact ⟨lead, tail, quotes⟩

end Dialect

theorem literalsReadBack {config : Config} {mark : Char} (doubles : config.DoublesQuote mark)
    (mapper : ColumnMapper) (history : List Command) :
    let dialect := (Dialect.new config mapper).after history
    (∀ content rest,
      Text.literal? mark ((config.quoted content).toList ++ rest) = some (content.toList, rest) ↔
        rest.head? ≠ some mark) ∧
    (∀ content other, config.quoted content = config.quoted other ↔ content = other) ∧
    (∀ (command : Command) statement before piece after content,
      command.spells config = true → (dialect.run command).1 = .ok statement →
      command.pieces mapper = before ++ piece :: after → piece.quotedText? = some content →
      ∃ lead tail, statement.Quotes config mark lead content tail ∧
        ∀ another other, another.quotedText? = some other →
          (dialect.writeSchema (.of (before ++ another :: after))).1 =
            .ok ⟨lead ++ config.quoted other ++ tail, statement.arguments⟩) ∧
    ∀ (table : Table) statement column value content, column ∈ table.columns →
      column.default? = some value →
      Column.defaultText? (mapper column).layout? value = some content →
      (dialect.run (.table table)).1 = .ok statement →
      ∃ lead tail, statement.Quotes config mark (lead ++ " DEFAULT ") content tail := by
  intro dialect
  refine ⟨doubles.read, fun _ _ => doubles.quotedSame, ?_, ?_⟩
  · intro command statement before piece after content spelled built pieces quoted
    obtain ⟨quotes, arguments⟩ := Dialect.quotesAt doubles spelled built pieces quoted
    refine ⟨_, _, quotes, fun another other otherQuoted => ?_⟩
    rw [arguments]
    exact Dialect.anotherAt config mapper history otherQuoted before after
  · intro table statement column value content listed default quoted built
    exact Dialect.defaultQuotes doubles listed default quoted built

theorem apostrophesReadBack :
    let table := Table.mk .create "season" "" false ""
      [.column (.starting .string (.string "o'brien'"))]
    Config.DoublesQuote {} '\'' ∧ '\'' ∉ Piece.fences ∧
    Text.literal? '\'' ((Config.quoted {} "''").toList ++ [')']) = some (['\'', '\''], [')']) ∧
    ∃ statement lead tail, (Dialect.standard.run (.table table)).1 = .ok statement ∧
      statement.Quotes {} '\'' (lead ++ " DEFAULT ") "o'brien'" tail := by
  intro table
  have doubles : Config.DoublesQuote {} '\'' := ⟨rfl, rfl⟩
  obtain ⟨read, -, -, defaults⟩ := literalsReadBack doubles Column.nativeType []
  obtain ⟨statement, built⟩ := Dialect.standard.writeSchemaOpen
    (show (table.sketch Column.nativeType).obstacle? = none from rfl)
  obtain ⟨lead, tail, quotes⟩ :=
    defaults table statement _ _ "o'brien'" List.mem_cons_self rfl rfl built
  exact ⟨doubles, by decide, (read "''" [')']).mpr (by decide), statement, lead, tail, built,
    quotes⟩

end Sqlwright
