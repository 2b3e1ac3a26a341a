import Sqlwright.Proofs.Dialect.History
import Sqlwright.Proofs.Query.Nested

/-! Filters and queries written after other text. They append what they come to in an empty
statement, with every written placeholder moved up by the number of arguments that are there
already. So a query inside another is its own statement, renumbered, without its semicolon. -/
namespace Sqlwright
open Identifier (Cache Rules)

inductive Part where
  | filter (filter : Filter)
  | query (query : Query)

namespace Part

def pieces : Part → List Piece
  | .filter f => f.pieces
  | .query q => q.pieces

def queries : Part → List Query
  | .filter f => f.queries
  | .query q => q.queries

def tokens (config : Config) (part : Part) : List Token := Piece.allTokens config 0 part.pieces

theorem queriesWritten {part : Part} {inner : Query} (member : inner ∈ part.queries) :
    inner.pieces <:+: part.pieces := by
  cases part with
  | filter f => exact Filter.queriesWritten member
  | query q => exact Query.queriesWritten member

end Part

namespace Statement

structure Continues (config : Config) (tokens : List Token) (arguments : List Value)
    (before after : Statement) : Prop where
  sql : after.sql = before.sql ++
    Token.joined config (tokens.map (Token.renumber before.arguments.length))
  arguments : after.arguments = before.arguments ++ arguments

theorem extendedContinues (config : Config) (statement : Statement) (pieces : List Piece) :
    Continues config (Piece.allTokens config 0 pieces) (Piece.allBound config pieces) statement
      (statement.extended config pieces) :=
  ⟨by rw [← Piece.allTokensRenumber]; rfl, rfl⟩

end Statement

namespace Part

theorem writtenAlone {draft : Draft} (sound : draft.cache.Sound) (start : draft.statement = .empty)
    (config : Config) (part : Part) : (draft.writeAll config part.pieces).statement =
      ⟨Token.joined config (part.tokens config), Piece.allBound config part.pieces⟩ := by
  rw [(Draft.writeAllExtends sound config part.pieces).1, start, Statement.extendedEmpty]
  rfl

theorem writtenContinues {draft : Draft} (sound : draft.cache.Sound) (config : Config)
    (part : Part) : Statement.Continues config (part.tokens config)
      (Piece.allBound config part.pieces) draft.statement
      (draft.writeAll config part.pieces).statement := by
  rw [(Draft.writeAllExtends sound config part.pieces).1]
  exact Statement.extendedContinues config draft.statement part.pieces

end Part

theorem Query.ownStatement (config : Config) (mapper : ColumnMapper) (history : List Command)
    (query : Query) : (((Dialect.new config mapper).after history).query query).1 =
      ⟨Token.joined config ((Part.query query).tokens config) ++
          if query.statement?.isSome then "" else ";",
        Piece.allBound config query.pieces⟩ := by
  rw [Dialect.query, Dialect.writeAfter, Statement.extendedEmpty, Query.statementPieces,
    Piece.allTokensAppend, Piece.allBoundAppend, Token.joinedAppend]
  split <;> simp [Part.tokens, Part.pieces, Piece.allTokens, Piece.tokens, Piece.allBound,
    Piece.bound, Token.joined, Token.sql]

theorem embeddingRenumbers (config : Config) (mapper : ColumnMapper) (history : List Command)
    (earlier later : List (Rules × String)) (statement : Statement) (part : Part) :
    let alone := (Draft.start (.after earlier)).writeAll config part.pieces
    let draft : Draft := ⟨statement, .after later⟩
    let written := draft.writeAll config part.pieces
    alone.statement.sql = Token.joined config (part.tokens config) ∧
    Statement.Continues config (part.tokens config) alone.statement.arguments statement
      written.statement ∧
    (config.ordinal = false → written.statement.sql = statement.sql ++ alone.statement.sql) ∧
    ∀ inner ∈ part.queries, ∃ front back,
      part.pieces = front ++ inner.pieces ++ back ∧
      let own := (((Dialect.new config mapper).after history).query inner).1
      let reached := draft.writeAll config front
      let passed := reached.writeAll config inner.pieces
      own.sql = Token.joined config ((Part.query inner).tokens config) ++
        (if inner.statement?.isSome then "" else ";") ∧
      Statement.Continues config ((Part.query inner).tokens config) own.arguments
        reached.statement passed.statement ∧
      written = passed.writeAll config back := by
  intro alone draft written
  have sound : draft.cache.Sound := Cache.afterSound later
  have start : (Draft.start (.after earlier)).cache.Sound := Cache.afterSound earlier
  have aloneIs : alone.statement = _ := Part.writtenAlone start rfl config part
  have continues : Statement.Continues config (part.tokens config) alone.statement.arguments
      statement written.statement := by
    rw [aloneIs]
    exact Part.writtenContinues sound config part
  refine ⟨by rw [aloneIs], continues, ?_, ?_⟩
  · intro plain
    rw [continues.sql, Token.joinedRenumber plain, aloneIs]
  · intro inner member
    obtain ⟨front, back, around⟩ := Part.queriesWritten member
    refine ⟨front, back, around.symm, ?_⟩
    intro own reached passed
    have ownIs : own = _ := Query.ownStatement config mapper history inner
    have reachedSound : reached.cache.Sound := (Draft.writeAllExtends sound config front).2
    refine ⟨by rw [ownIs], ?_, ?_⟩
    · rw [ownIs]
      exact Part.writtenContinues reachedSound config (.query inner)
    · show draft.writeAll config part.pieces = _
      rw [← around, Draft.writeAllAppend, Draft.writeAllAppend]

def Query.orders : Query :=
  { Query.ofTable "order" with filter := .compare "paid" .equal (.value (.bool false)) }

def Filter.indebted : Filter :=
  .and [.compare "country" .equal (.value (.string "cz")), .among "id" [.query .orders] false]

theorem indebtedEmbeds :
    let part : Part := .filter .indebted
    let before : Statement := ⟨"DELETE FROM [user] WHERE age=@p1 AND ", [.int 5]⟩
    let written := Draft.writeAll {} ⟨before, .empty⟩ part.pieces
    let own := ((Dialect.new {} Column.nativeType).query .orders).1
    Query.orders ∈ part.queries ∧
    Statement.Continues {} (part.tokens {}) [.string "cz", .bool false] before
      written.statement ∧
    ∃ front back, part.pieces = front ++ Query.orders.pieces ++ back ∧
      own.sql = Token.joined {} ((Part.query .orders).tokens {}) ++ ";" ∧
      Statement.Continues {} ((Part.query .orders).tokens {}) own.arguments
        (Draft.writeAll {} ⟨before, .empty⟩ front).statement
        (Draft.writeAll {} ⟨before, .empty⟩ (front ++ Query.orders.pieces)).statement := by
  intro part before written own
  have inside : Query.orders ∈ part.queries := List.mem_singleton.mpr rfl
  obtain ⟨_, continues, _, nested⟩ :=
    embeddingRenumbers {} Column.nativeType [] [] [] before part
  obtain ⟨front, back, around, ended, passed, _⟩ := nested .orders inside
  refine ⟨inside, continues, front, back, around, ended, ?_⟩
  rw [Draft.writeAllAppend]
  exact passed

end Sqlwright
