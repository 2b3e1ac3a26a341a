import Mathlib
import Sqlwright.Proofs.Adapter.Journal
import Sqlwright.Proofs.Schema.Index

/-! What becomes of the values in the filter of an index. A value with a place of its own is
written there as a literal. The values of fragments, raw joins and raw statements stay bound when
the text is taken, and the text is sent without them. -/
namespace Sqlwright

namespace Index

def tokens (config : Config) (index : Index) : List Token :=
  Piece.allTokens config 0 index.sketch.pieces

structure Spelled (config : Config) (index : Index) (statement : Statement) : Prop where
  text : statement.sql = Token.spelled config (index.tokens config.binding)
  written : ((index.tokens config.binding).filterMap Token.slot?).map (·.2) =
    Site.used .placed index.sites
  bound : statement.arguments = Site.used .loose index.sites
  nothingBound : statement.arguments = [] ↔ ∀ site ∈ index.sites, site.use ≠ .loose

theorem spelledOfPieces {index : Index} (done : index.sketch.obstacle? = none)
    (config : Config) :
    index.Spelled config (Statement.empty.extended config.inlined index.sketch.pieces) := by
  have sites := sitesOfPieces done
  have arguments : (Statement.empty.extended config.inlined index.sketch.pieces).arguments =
      Site.used .loose index.sites := by
    rw [Statement.extendedEmpty]
    show Piece.allBound config.inlined index.sketch.pieces = _
    rw [Piece.allBoundInlined, sites, Site.usedBound (by decide)]
  have slots : (index.tokens config.binding).filterMap Token.slot? =
      Site.slots 0 (Site.bound index.sites) := by
    have binds : config.binding.inline = false := rfl
    rw [tokens, Piece.slotsOfTokens binds, sites]
  refine ⟨?_, ?_, arguments, ?_⟩
  · rw [Statement.extendedEmpty]
    exact Piece.spelledAllTokens config 0 0 index.sketch.pieces
  · rw [slots, Site.slotsPlaced, Site.usedBound (by decide)]
  · rw [arguments]
    exact Site.usedNone

end Index

theorem sentIndexSpelled (config : Config) (mapper : ColumnMapper) (history : List Command)
    (index : Index) {statement : Statement}
    (built : (((Dialect.new config mapper).after history).index index).1 = .ok statement)
    {σ : Type} (session : Session σ)
    (same : session.dialect = (Dialect.new config mapper).after history) :
    index.Spelled config statement ∧
    ∃ reports : List Event, (session.applyIndex index).2.journal =
      session.journal ++ Session.sending .execute ⟨statement.sql, []⟩ ++ reports.map .told := by
  have here : (session.dialect.index index).1 = .ok statement := by
    rw [same]
    exact built
  have sent := Session.applyJournal here
  rw [Dialect.index, Dialect.writeSchemaAfter] at built
  obtain ⟨done, written⟩ := Sketch.outcomeOk built
  refine ⟨?_, sent⟩
  rw [written]
  exact Index.spelledOfPieces done config

theorem overdueSpelled :
    let index := Index.filtered .overdue
    let session := Session.start (Dialect.new {} Column.nativeType) Script.connection ⟨[], []⟩
    ∃ statement, ((Dialect.new {} Column.nativeType).index index).1 = .ok statement ∧
      session.dialect = Dialect.new {} Column.nativeType ∧
      index.Spelled {} statement ∧
      statement.arguments = [.int 7] ∧
      ∃ reports : List Event, (session.applyIndex index).2.journal =
        Session.sending .execute ⟨statement.sql, []⟩ ++ reports.map .told := by
  intro index session
  obtain ⟨statement, built⟩ : ∃ statement,
      ((Dialect.new {} Column.nativeType).index index).1 = .ok statement :=
    ⟨_, Dialect.writeSchemaAfter {} Column.nativeType [] index.sketch⟩
  obtain ⟨spelled, sent⟩ :=
    sentIndexSpelled {} Column.nativeType [] index built session rfl
  exact ⟨statement, built, rfl, spelled, spelled.bound, sent⟩

theorem fragmentValueLost :
    let index := Index.filtered (.fragment "score > @p1" [.int 3])
    let session := Session.start (Dialect.new {} Column.nativeType) Script.connection ⟨[], []⟩
    let sql := "IF NOT EXISTS (SELECT 1 FROM sys.indexes WHERE name = 'ix' AND object_id = " ++
      "OBJECT_ID('[loan]')) CREATE UNIQUE NONCLUSTERED INDEX [ix] ON [loan] ([year]) " ++
      "WHERE [year] IS NOT NULL AND score > @p1;"
    ((Dialect.new {} Column.nativeType).index index).1 = .ok ⟨sql, [.int 3]⟩ ∧
      (session.applyIndex index).2.state.received = [⟨.execute, ⟨sql, []⟩⟩] := by
  constructor <;> cbv

end Sqlwright
