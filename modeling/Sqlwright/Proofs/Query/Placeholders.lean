import Sqlwright.Proofs.Dialect.History
import Sqlwright.Proofs.Query.Sites

/-! Placeholders and arguments of a query. Fragments, raw joins and raw statements take their
positions among the arguments without a placeholder being written, so the numbers of the
written placeholders may have gaps, but each number is that of the value it was written for. -/
namespace Sqlwright

namespace Query

def tokens (config : Config) (query : Query) : List Token :=
  Piece.allTokens config 0 query.statementPieces

structure Bound (config : Config) (query : Query) (statement : Statement) : Prop where
  text : statement.sql = Token.joined config (query.tokens config)
  arguments : statement.arguments = (Site.bound query.sites).map Site.value
  order : Site.bound query.sites =
    match query.statement? with
    | some raw => Site.loose raw.arguments
    | none =>
        (query.joins.flatMap fun join =>
          Site.loose join.arguments ++
            if join.table.isEmpty then [] else Site.bound join.filter.sites) ++
        Site.bound query.filter.sites ++
        if query.groupFields.isEmpty then [] else Site.bound query.having.sites
  own : ∀ position value, .placeholder position value ∈ query.tokens config →
    (Token.placeholder position value).sql config = config.placeholder ++ toString position ∧
      0 < position ∧ statement.arguments[position - 1]? = some value
  ascending : (((query.tokens config).filterMap Token.slot?).map (·.1)).Pairwise (· < ·)
  gaps : ∀ index < statement.arguments.length,
    (∀ value, .placeholder (index + 1) value ∉ query.tokens config) ↔
      (Site.bound query.sites)[index]?.map Site.use = some .loose

theorem slotsOfStatement {config : Config} (binds : config.inline = false) (query : Query) :
    (query.tokens config).filterMap Token.slot? = Site.slots 0 (Site.bound query.sites) := by
  rw [tokens, Piece.slotsOfTokens binds, sitesOfStatement]

theorem memTokens {config : Config} (binds : config.inline = false) (query : Query)
    {position : Nat} {value : Value} :
    .placeholder position value ∈ query.tokens config ↔
      ∃ index, (Site.bound query.sites)[index]? = some ⟨.placed, value⟩ ∧
        position = index + 1 := by
  rw [← Token.memSlots, slotsOfStatement binds, Site.memSlots]
  simp only [Nat.zero_add]

theorem extendedBound {config : Config} (ordinal : config.ordinal = true)
    (binds : config.inline = false) (query : Query) :
    query.Bound config (Statement.empty.extended config query.statementPieces) := by
  have arguments : (Statement.empty.extended config query.statementPieces).arguments =
      (Site.bound query.sites).map Site.value := by
    rw [Statement.extendedEmpty, Piece.allBoundSites binds, sitesOfStatement]
  refine ⟨by rw [Statement.extendedEmpty]; rfl, arguments, query.boundSites, ?_, ?_, ?_⟩
  · intro position value member
    obtain ⟨index, found, place⟩ := (memTokens binds query).mp member
    refine ⟨by simp [Token.sql, Statement.placeholder, ordinal], by omega, ?_⟩
    rw [arguments, place, Nat.add_sub_cancel, List.getElem?_map, found]
    rfl
  · rw [slotsOfStatement binds]
    exact Site.slotsAscending 0 _
  · intro index inside
    rw [arguments, List.length_map] at inside
    constructor
    · intro absent
      have here := List.getElem?_eq_getElem inside
      rcases Site.memBound (List.getElem_mem inside) with placed | loose
      · have site : (Site.bound query.sites)[index]? =
            some ⟨.placed, (Site.bound query.sites)[index].value⟩ := by rw [here, ← placed]
        exact absurd ((memTokens binds query).mpr ⟨index, site, rfl⟩) (absent _)
      · rw [here, Option.map_some, loose]
    · intro loose value member
      obtain ⟨other, found, place⟩ := (memTokens binds query).mp member
      have same : other = index := by omega
      rw [same] at found
      simp [found] at loose

end Query

theorem queryBindsValues (config : Config) (ordinal : config.ordinal = true)
    (binds : config.inline = false) (mapper : ColumnMapper) (earlier : List Command)
    (query : Query) :
    query.Bound config (((Dialect.new config mapper).after earlier).query query).1 := by
  rw [Dialect.query, Dialect.writeAfter]
  exact query.extendedBound ordinal binds

def Query.posts : Query :=
  let authors : Query :=
    { Query.ofTable "user" with filter := .compare "role" .equal (.value (.string "author")) }
  { Query.ofTable "post" with
    joins := [.raw "CROSS APPLY tags(?)" [.int 7]]
    filter := .and [.among "user" [.value .null, .query authors] false,
      .fragment "score > ?" [.int 3], .or [], .compare "kind" .unequal (.value (.bool true))] }

theorem postsBindValues :
    Config.ordinal {} = true ∧ Config.inline {} = false ∧
    let statement := (((Dialect.new {} Column.nativeType).after [.escape "post"]).query .posts).1
    Query.posts.Bound {} statement ∧
    statement.arguments = [.int 7, .null, .string "author", .int 3, .bool true] := by
  have ordinal : Config.ordinal {} = true := rfl
  have binds : Config.inline {} = false := rfl
  have bound := queryBindsValues {} ordinal binds Column.nativeType [.escape "post"] .posts
  exact ⟨ordinal, binds, bound, bound.arguments⟩

end Sqlwright
