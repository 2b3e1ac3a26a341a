import Mathlib
import Sqlwright.Proofs.Calendar.Instant
import Sqlwright.Proofs.Dialect.Literal
import Sqlwright.Proofs.Schema.Index

/-! Timestamps with an offset in the statements of a dialect. The default of a column is the date
and time shown at the place, so at one offset the instant is kept to the second that is shown, and
two instants with one date and time at their places have one default. In a value that is written out
the offset stands too, and the instant is kept if the offset is a number of minutes. -/
namespace Sqlwright

theorem Statement.Quotes.same {config : Config} {mark : Char} (doubles : config.DoublesQuote mark)
    {statement changed : Statement} {lead content other tail : String}
    (quotes : statement.Quotes config mark lead content tail)
    (otherQuotes : changed.Quotes config mark lead other tail) :
    statement.sql = changed.sql ↔ content = other := by
  rw [quotes.sql, otherQuotes.sql, String.append_left_inj, String.append_right_inj,
    doubles.quotedSame]

theorem Column.timestampText {column : Column} (kind : column.kind = .dateTime)
    (dt : OffsetDateTime) : Column.defaultText? column.nativeType.layout? (.offsetDateTime dt) =
      some (dt.place.moment.text Layout.dateTime) := by
  have fits : ∀ item ∈ Layout.dateTime, item.Fits dt.moment := fun item member =>
    Layout.offsetDateTimeFits dt item (List.mem_append_left _ member)
  rw [nativeLayout, kind, ← dt.placeText]
  exact Moment.formatText fits

namespace OffsetDateTime

variable {dt other : OffsetDateTime}

theorem literalSame {config : Config} {mark : Char} (doubles : config.DoublesQuote mark)
    (whole : dt.offset.WholeMinute) (otherWhole : other.offset.WholeMinute) :
    (Value.offsetDateTime dt).literal config = (Value.offsetDateTime other).literal config ↔
      dt.instant = other.instant ∧ dt.offset = other.offset := by
  rw [Value.literal, Value.literal, doubles.quotedSame, textSame whole otherWhole]
  exact and_congr_left fun offset => (instantAtOffset offset).symm

end OffsetDateTime

theorem timestampsTold {config : Config} {mark : Char} (doubles : config.DoublesQuote mark)
    (history : List Command) :
    let dialect := (Dialect.new config Column.nativeType).after history
    (∀ (table : Table) ahead behind (column : Column) (dt other : OffsetDateTime) statement,
      column.kind = .dateTime → (Definition.column column).column? table.operation = some column →
      (dialect.run (.table (table.around ahead behind
        (column.defaulting (.offsetDateTime dt))))).1 = .ok statement →
      ∃ lead tail changed,
        (dialect.run (.table (table.around ahead behind
          (column.defaulting (.offsetDateTime other))))).1 = .ok changed ∧
        statement.Quotes config mark (lead ++ " DEFAULT ")
          (dt.place.moment.text Layout.dateTime) tail ∧
        changed.Quotes config mark (lead ++ " DEFAULT ")
          (other.place.moment.text Layout.dateTime) tail ∧
        (statement.sql = changed.sql ↔ dt.place.shown = other.place.shown)) ∧
    (∀ dt : OffsetDateTime, dt.instant =
      if nanosPerSecond ≤ dt.place.time.nano ∧ dt.place.time.second ≠ 59 then
        ⟨dt.counted.seconds + 1, false⟩
      else dt.counted) ∧
    (∀ dt other : OffsetDateTime,
      (dt.offset = other.offset →
        (dt.instant = other.instant ↔ dt.place.shown = other.place.shown)) ∧
      (dt.place.shown = other.place.shown →
        (dt.instant = other.instant ↔ dt.offset = other.offset))) ∧
    ∀ dt other : OffsetDateTime, dt.offset.WholeMinute → other.offset.WholeMinute →
      ((Value.offsetDateTime dt).literal config = (Value.offsetDateTime other).literal config ↔
        dt.instant = other.instant ∧ dt.offset = other.offset) ∧
      ∀ (first second : Command) before after statement changed,
        first.spells config = true → second.spells config = true →
        (dialect.run first).1 = .ok statement → (dialect.run second).1 = .ok changed →
        first.pieces Column.nativeType = before ++ .value (.offsetDateTime dt) :: after →
        second.pieces Column.nativeType = before ++ .value (.offsetDateTime other) :: after →
        (statement.sql = changed.sql ↔ dt.instant = other.instant ∧ dt.offset = other.offset) := by
  intro dialect
  refine ⟨?_, OffsetDateTime.instantCounted,
    fun dt other => ⟨OffsetDateTime.instantAtOffset, OffsetDateTime.instantAtPlace⟩, ?_⟩
  · intro table ahead behind column dt other statement kind listed built
    have type : (column.defaulting (.offsetDateTime other)).nativeType =
        (column.defaulting (.offsetDateTime dt)).nativeType := rfl
    have text := @Column.timestampText (column.defaulting (.offsetDateTime dt)) kind
    obtain ⟨lead, tail, changed, otherBuilt, quotes, otherQuotes⟩ :=
      Dialect.defaultsQuoted doubles type listed (text dt) (text other) built
    refine ⟨lead, tail, changed, otherBuilt, quotes, otherQuotes, ?_⟩
    rw [quotes.same doubles otherQuotes, DateTime.textSame]
  · intro dt other whole otherWhole
    have literals := OffsetDateTime.literalSame doubles whole otherWhole
    refine ⟨literals, ?_⟩
    intro first second before after statement changed spelled otherSpelled built otherBuilt pieces
      otherPieces
    obtain ⟨quotes, -⟩ := Dialect.quotesAt doubles spelled built pieces rfl
    obtain ⟨otherQuotes, -⟩ := Dialect.quotesAt doubles otherSpelled otherBuilt otherPieces rfl
    rw [quotes.same doubles otherQuotes, ← literals]
    exact doubles.quotedSame.symm

def OffsetDateTime.evening (minutes : Int) (valid : (60 * minutes).natAbs < 86400) :
    OffsetDateTime := ⟨⟨.springDay, .evening⟩, ⟨60 * minutes, valid⟩⟩

def Table.seasonStarting (dt : OffsetDateTime) : Table :=
  Table.around ⟨.create, "season", "", false, "", []⟩ [] [.raw "note TEXT"]
    ((Column.starting .dateTime .null).defaulting (.offsetDateTime dt))

def Index.starting (dt : OffsetDateTime) : Index :=
  .filtered (.compare "starts" .equal (.value (.offsetDateTime dt)))

theorem eveningsTold :
    let east := OffsetDateTime.evening 120 (by decide)
    let west := OffsetDateTime.evening (-90) (by decide)
    Config.DoublesQuote {} '\'' ∧ east.offset.WholeMinute ∧ west.offset.WholeMinute ∧
    east.instant ≠ west.instant ∧
    (∃ statement changed, (Dialect.standard.run (.table (.seasonStarting east))).1 = .ok statement ∧
      (Dialect.standard.run (.table (.seasonStarting west))).1 = .ok changed ∧
      statement.sql = changed.sql) ∧
    ∃ statement changed, (Dialect.standard.run (.index (.starting east))).1 = .ok statement ∧
      (Dialect.standard.run (.index (.starting west))).1 = .ok changed ∧
      statement.sql ≠ changed.sql := by
  intro east west
  have doubles : Config.DoublesQuote {} '\'' := ⟨rfl, rfl⟩
  have whole : east.offset.WholeMinute := ⟨120, rfl⟩
  have otherWhole : west.offset.WholeMinute := ⟨-90, rfl⟩
  obtain ⟨defaults, -, instants, literals⟩ := timestampsTold doubles []
  have offsets : east.offset ≠ west.offset := by decide
  have apart : east.instant ≠ west.instant := fun same =>
    offsets (((instants east west).2 rfl).mp same)
  refine ⟨doubles, whole, otherWhole, apart, ?_, ?_⟩
  · obtain ⟨statement, built⟩ := Dialect.standard.writeSchemaOpen
      (show ((Table.seasonStarting east).sketch Column.nativeType).obstacle? = none from rfl)
    obtain ⟨_, _, changed, otherBuilt, _, _, same⟩ :=
      defaults _ [] [.raw "note TEXT"] _ east west statement rfl rfl built
    exact ⟨statement, changed, built, otherBuilt, same.mpr rfl⟩
  · obtain ⟨statement, built⟩ := Dialect.standard.writeSchemaOpen
      (show (Index.starting east).sketch.obstacle? = none from rfl)
    obtain ⟨changed, otherBuilt⟩ := Dialect.standard.writeSchemaOpen
      (show (Index.starting west).sketch.obstacle? = none from rfl)
    refine ⟨statement, changed, built, otherBuilt, fun same => apart ?_⟩
    have told := (literals east west whole otherWhole).2 (.index (.starting east))
      (.index (.starting west))
      ((Index.starting east).leadPieces ++ [Piece.field "starts", .text "="])
      (Index.starting east).closingPieces statement changed rfl rfl built otherBuilt rfl rfl
    exact (told.mp same).1

theorem offsetLost :
    let east := OffsetDateTime.evening 120 (by decide)
    let west := OffsetDateTime.evening (-90) (by decide)
    east.offset.WholeMinute ∧ west.offset.WholeMinute ∧ east.instant ≠ west.instant ∧
    ∃ statement, (Dialect.standard.run (.table (.seasonStarting east))).1 = .ok statement ∧
      (Dialect.standard.run (.table (.seasonStarting west))).1 = .ok statement := by
  intro east west
  refine ⟨⟨120, rfl⟩, ⟨-90, rfl⟩, by decide, ?_⟩
  obtain ⟨statement, built⟩ := Dialect.standard.writeSchemaOpen
    (show ((Table.seasonStarting east).sketch Column.nativeType).obstacle? = none from rfl)
  refine ⟨statement, built, ?_⟩
  rw [← built]
  rfl

end Sqlwright
