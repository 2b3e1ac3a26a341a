import Mathlib
import Sqlwright.Proofs.Query.Placeholders
import Sqlwright.Proofs.Schema.Index

/-! Filters and queries written in the two modes. The mode is that of the statement being
written, so the filter of an index, whose statement writes values out, comes to the same text as
the filter of a query of the same dialect once literals stand where that one has placeholders. -/
namespace Sqlwright
open Identifier (Cache Rules)

namespace Part

def sites : Part → List Site
  | .filter f => f.sites
  | .query q => q.sites

theorem sitesOfPieces (part : Part) : Piece.allSites part.pieces = Site.bound part.sites := by
  cases part with
  | filter f => exact f.sitesOfPieces
  | query q => exact q.sitesOfPieces

/-- Two statements that go on from one, a part being bound in the first and written out in the
second. -/
structure Agrees (config : Config) (part : Part) (before bound inlined : Statement) : Prop where
  bound : Statement.Continues config.binding (part.tokens config.binding)
    ((Site.bound part.sites).map Site.value) before bound
  slots : (part.tokens config.binding).filterMap Token.slot? =
    Site.slots 0 (Site.bound part.sites)
  sql : inlined.sql = before.sql ++ Token.spelled config (part.tokens config.binding)
  arguments : inlined.arguments =
    before.arguments ++ Site.used .loose (Site.bound part.sites)

theorem extendedAgrees (config : Config) (part : Part) (before : Statement) :
    part.Agrees config before (before.extended config.binding part.pieces)
      (before.extended config.inlined part.pieces) := by
  have binds : config.binding.inline = false := rfl
  have values : Piece.allBound config.binding part.pieces =
      (Site.bound part.sites).map Site.value := by
    rw [Piece.allBoundSites binds, sitesOfPieces]
  refine ⟨?_, ?_, ?_, ?_⟩
  · rw [← values]
    exact Statement.extendedContinues config.binding before part.pieces
  · rw [tokens, Piece.slotsOfTokens binds, sitesOfPieces]
  · exact congrArg (before.sql ++ ·) (Piece.spelledAllTokens config _ 0 part.pieces)
  · rw [← sitesOfPieces, ← Piece.allBoundInlined config]
    rfl

theorem writtenAgrees (config : Config) (earlier later : List (Rules × String))
    (before : Statement) (part : Part) : part.Agrees config before
      (Draft.writeAll config.binding ⟨before, .after earlier⟩ part.pieces).statement
      (Draft.writeAll config.inlined ⟨before, .after later⟩ part.pieces).statement := by
  have first : (⟨before, .after earlier⟩ : Draft).cache.Sound := Cache.afterSound earlier
  have second : (⟨before, .after later⟩ : Draft).cache.Sound := Cache.afterSound later
  rw [(Draft.writeAllExtends first config.binding part.pieces).1,
    (Draft.writeAllExtends second config.inlined part.pieces).1]
  exact part.extendedAgrees config before

end Part

namespace Query

theorem boundStatement (config : Config) (query : Query) :
    Statement.empty.extended config.binding query.statementPieces =
      ⟨Token.joined config.binding (query.tokens config.binding),
        (Site.bound query.sites).map Site.value⟩ := by
  have binds : config.binding.inline = false := rfl
  rw [Statement.extendedEmpty, Piece.allBoundSites binds, sitesOfStatement]
  rfl

theorem spelledStatement (config : Config) (query : Query) :
    Statement.empty.extended config.inlined query.statementPieces =
      ⟨Token.spelled config (query.tokens config.binding),
        Site.used .loose (Site.bound query.sites)⟩ := by
  rw [Statement.extendedEmpty, Piece.spelledAllTokens config 0 0, Piece.allBoundInlined,
    sitesOfStatement]
  rfl

end Query

namespace Index

def leadText (config : Config) (index : Index) : String :=
  Token.joined config (Piece.allTokens config 0 index.leadPieces)

def closingText (config : Config) (index : Index) : String :=
  Token.joined config (Piece.allTokens config 0 index.closingPieces)

theorem createdStatement {index : Index} (created : index.operation = .create)
    (config : Config) (mapper : ColumnMapper) (history : List Command) :
    (((Dialect.new config mapper).after history).index index).1 =
      .ok ⟨index.leadText config ++
          Token.spelled config ((Part.filter index.filter).tokens config.binding) ++
          index.closingText config,
        Site.used .loose (Site.bound index.filter.sites)⟩ := by
  have lead : Token.joined config.inlined
      (Piece.allTokens config.inlined 0 index.leadPieces) = index.leadText config := by
    rw [Piece.spelledAllTokens config 0 0]
    exact Piece.spelledWithoutSites index.sitesLead config 0 0
  have filter : ∀ count, Token.joined config.inlined
      (Piece.allTokens config.inlined count index.filter.pieces) =
        Token.spelled config ((Part.filter index.filter).tokens config.binding) :=
    fun count => Piece.spelledAllTokens config count 0 index.filter.pieces
  have closing : ∀ count, Token.joined config.inlined
      (Piece.allTokens config.inlined count index.closingPieces) = index.closingText config := by
    intro count
    rw [Piece.spelledAllTokens config count 0]
    exact Piece.spelledWithoutSites index.sitesClosing config 0 0
  have sql : Token.joined config.inlined (Piece.allTokens config.inlined 0
      (index.leadPieces ++ index.filter.pieces ++ index.closingPieces)) =
        index.leadText config ++
          Token.spelled config ((Part.filter index.filter).tokens config.binding) ++
          index.closingText config := by
    rw [Piece.allTokensAppend, Piece.allTokensAppend, Token.joinedAppend, Token.joinedAppend,
      lead, filter, closing]
  have arguments : Piece.allBound config.inlined
      (index.leadPieces ++ index.filter.pieces ++ index.closingPieces) =
        Site.used .loose (Site.bound index.filter.sites) := by
    rw [Piece.allBoundInlined, Piece.sitesAppend, Piece.sitesAppend, sitesLead, sitesClosing,
      Filter.sitesOfPieces, List.nil_append, List.append_nil]
  rw [Dialect.index, Dialect.writeSchemaAfter, sketchCreate created, Sketch.outcomeOf,
    Statement.extendedEmpty, sql, arguments]

end Index

theorem modesAgree (config : Config) (mapper : ColumnMapper) (history : List Command)
    (earlier later : List (Rules × String)) (before : Statement) (part : Part) :
    part.Agrees config before
      (Draft.writeAll config.binding ⟨before, .after earlier⟩ part.pieces).statement
      (Draft.writeAll config.inlined ⟨before, .after later⟩ part.pieces).statement ∧
    (∀ query : Query,
      (((Dialect.new config.binding mapper).after history).query query).1 =
        ⟨Token.joined config.binding (query.tokens config.binding),
          (Site.bound query.sites).map Site.value⟩ ∧
      (query.tokens config.binding).filterMap Token.slot? =
        Site.slots 0 (Site.bound query.sites) ∧
      (((Dialect.new config.inlined mapper).after history).query query).1 =
        ⟨Token.spelled config (query.tokens config.binding),
          Site.used .loose (Site.bound query.sites)⟩) ∧
    ∀ index : Index, index.operation = .create →
      (((Dialect.new config mapper).after history).index index).1 =
        .ok ⟨index.leadText config ++
            Token.spelled config ((Part.filter index.filter).tokens config.binding) ++
            index.closingText config,
          Site.used .loose (Site.bound index.filter.sites)⟩ := by
  refine ⟨part.writtenAgrees config earlier later before, ?_, ?_⟩
  · intro query
    have binds : config.binding.inline = false := rfl
    refine ⟨?_, Query.slotsOfStatement binds query, ?_⟩
    · rw [Dialect.query, Dialect.writeAfter]
      exact query.boundStatement config
    · rw [Dialect.query, Dialect.writeAfter]
      exact query.spelledStatement config
  · intro index created
    exact Index.createdStatement created config mapper history

theorem overdueModesAgree :
    let part : Part := .filter .overdue
    let before : Statement := ⟨"DELETE FROM [loan] WHERE lender=@p1 AND ", [.int 5]⟩
    part.Agrees {} before (Draft.writeAll {} ⟨before, .empty⟩ part.pieces).statement
      (Draft.writeAll (Config.inlined {}) ⟨before, .empty⟩ part.pieces).statement ∧
    (Index.filtered .overdue).operation = .create ∧
    ((Dialect.new {} Column.nativeType).index (.filtered .overdue)).1 =
      .ok ⟨"IF NOT EXISTS (SELECT 1 FROM sys.indexes WHERE name = 'ix' AND object_id = " ++
        "OBJECT_ID('[loan]')) CREATE UNIQUE NONCLUSTERED INDEX [ix] ON [loan] ([year]) " ++
        "WHERE [year] IS NOT NULL AND ([state]<>'o''k' OR [id] NOT IN (NULL,(SELECT * FROM " ++
        "[reminder] CROSS APPLY due(@p2) WHERE [note] LIKE 'late%')));", [.int 7]⟩ := by
  intro part before
  obtain ⟨agrees, _, indexes⟩ := modesAgree {} Column.nativeType [] [] [] before part
  refine ⟨agrees, rfl, (indexes (.filtered .overdue) rfl).trans ?_⟩
  cbv

end Sqlwright
