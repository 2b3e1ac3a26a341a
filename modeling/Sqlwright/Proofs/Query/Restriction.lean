import Sqlwright.Proofs.Dialect.History
import Sqlwright.Proofs.Query.Combination

/-! Queries restricted one filter after another. The filter of a query means the AND of all the
filters that it was given, binds their values in that order, and has no clause if there is
nothing to write in any of them; so does the filter of its groups. -/
namespace Sqlwright
open Identifier (Rules)

namespace Filter

def clauseText (config : Config) (count : Nat) (word : String) (filter : Filter) : String :=
  if filter.isEmpty then ""
  else word ++ Token.joined config (Piece.allTokens config count filter.pieces)

theorem clauseOfTokens (config : Config) (count : Nat) (word : String) (filter : Filter) :
    Token.joined config (Piece.allTokens config count
      (Piece.clause word filter.isEmpty filter.pieces)) = filter.clauseText config count word := by
  unfold Piece.clause clauseText
  split <;> rfl

theorem boundClause (config : Config) (word : String) (filter : Filter) :
    Piece.allBound config (Piece.clause word filter.isEmpty filter.pieces) =
      filter.arguments config := by
  rw [argumentsBound, Piece.boundOfSites, Piece.boundOfSites, Piece.sitesClause, sitesGuarded]

end Filter

inductive Restriction where
  | rows (filter : Filter)
  | groups (filter : Filter)

namespace Restriction

def rows? : Restriction → Option Filter
  | .rows filter => some filter
  | .groups _ => none

def groups? : Restriction → Option Filter
  | .rows _ => none
  | .groups filter => some filter

end Restriction

namespace Query

def refine (query : Query) : Restriction → Query
  | .rows filter => query.restrict filter
  | .groups filter => query.restrictGroups filter

theorem refineAll (query : Query) (calls : List Restriction) :
    calls.foldl refine query = { query with
      filter := (calls.filterMap Restriction.rows?).foldl Filter.andWith query.filter
      having := (calls.filterMap Restriction.groups?).foldl Filter.andWith query.having } := by
  induction calls generalizing query with
  | nil =>
    cases query
    rfl
  | cons call rest ih =>
    rw [List.foldl_cons, ih]
    cases call <;> rfl

def filtered (table : String) (groupFields : List String) (filter having : Filter) : Query :=
  { Query.ofTable table with groupFields, filter, having }

def tableText (config : Config) (table : String) : String :=
  if table.isEmpty then "" else " FROM " ++ (Rules.ofConfig config).escape table

def groupText (config : Config) (count : Nat) (groupFields : List String) (having : Filter) :
    String :=
  if groupFields.isEmpty then ""
  else
    " GROUP BY " ++ ",".intercalate (groupFields.map (Rules.ofConfig config).escape) ++
      having.clauseText config count " HAVING "

def groupPieces (groupFields : List String) (having : Filter) : List Piece :=
  Piece.clause " GROUP BY " groupFields.isEmpty (Piece.fields "," groupFields ++
    Piece.clause " HAVING " having.isEmpty having.pieces)

theorem tableOfTokens (config : Config) (count : Nat) (table : String) :
    Token.joined config (Piece.allTokens config count (tablePieces table)) =
      tableText config table := by
  unfold tablePieces tableText
  split
  · rfl
  · rw [Piece.textOfTokens, Piece.fieldAlone]

theorem boundTable (config : Config) (table : String) :
    Piece.allBound config (tablePieces table) = [] :=
  Piece.boundWithoutSites config (sitesTable table)

theorem boundFields (config : Config) (names : List String) :
    Piece.allBound config (Piece.fields "," names) = [] :=
  Piece.boundWithoutSites config (Piece.sitesFields "," names)

theorem groupOfTokens (config : Config) (count : Nat) (groupFields : List String)
    (having : Filter) :
    Token.joined config (Piece.allTokens config count (groupPieces groupFields having)) =
      groupText config count groupFields having := by
  unfold groupPieces groupText Piece.clause
  split
  · rfl
  · rw [Piece.textOfTokens, Piece.allTokensAppend, Token.joinedAppend, Piece.fieldsOfTokens,
      boundFields, String.append_assoc]
    exact congrArg (fun text => _ ++ (_ ++ text)) (having.clauseOfTokens config count " HAVING ")

theorem boundGroup (config : Config) (groupFields : List String) (having : Filter) :
    Piece.allBound config (groupPieces groupFields having) =
      if groupFields.isEmpty then [] else having.arguments config := by
  unfold groupPieces Piece.clause
  split
  · rfl
  · show Piece.allBound config (_ ++ Piece.clause " HAVING " having.isEmpty having.pieces) = _
    rw [Piece.allBoundAppend, boundFields, having.boundClause]
    rfl

theorem filteredPieces (table : String) (groupFields : List String) (filter having : Filter) :
    (filtered table groupFields filter having).statementPieces =
      .text "SELECT" :: .text " *" :: (tablePieces table ++
        (Piece.clause " WHERE " filter.isEmpty filter.pieces ++
          (groupPieces groupFields having ++ [.text ";"]))) := by
  simp [statementPieces, filtered, ofTable, statement?, Query.pieces, selectPieces,
    Join.allPieces, orderPieces, windowPieces, lockPieces, groupPieces]

theorem filteredStatement (config : Config) (table : String) (groupFields : List String)
    (filter having : Filter) :
    Statement.empty.extended config (filtered table groupFields filter having).statementPieces =
      ⟨"SELECT *" ++ tableText config table ++ filter.clauseText config 0 " WHERE " ++
          groupText config (filter.arguments config).length groupFields having ++ ";",
        filter.arguments config ++
          if groupFields.isEmpty then [] else having.arguments config⟩ := by
  have opening : "SELECT *" = "SELECT" ++ " *" := rfl
  rw [Statement.extendedEmpty, filteredPieces, Piece.textOfTokens, Piece.textOfTokens]
  congr 1
  · simp only [Piece.allTokensAppend, Token.joinedAppend, boundTable, tableOfTokens,
      Filter.clauseOfTokens, Filter.boundClause, groupOfTokens, Piece.textAlone, opening,
      String.append_assoc, List.length_nil, Nat.add_zero, Nat.zero_add]
  · show Piece.allBound config (tablePieces table ++ _) = _
    rw [Piece.allBoundAppend, Piece.allBoundAppend, Piece.allBoundAppend, boundTable,
      Filter.boundClause, boundGroup]
    exact congrArg (filter.arguments config ++ ·) (List.append_nil _)

theorem refinedStatement (config : Config) (mapper : ColumnMapper) (history : List Command)
    (table : String) (groupFields : List String) (calls : List Restriction) :
    let query := calls.foldl refine ((Query.ofTable table).groupBy groupFields)
    (((Dialect.new config mapper).after history).query query).1 =
      Statement.empty.extended config
        (filtered table groupFields query.filter query.having).statementPieces := by
  intro query
  have same : query = filtered table groupFields query.filter query.having := by
    simp only [query, refineAll]
    rfl
  rw [Dialect.query, Dialect.writeAfter, ← same]

end Query

theorem filtersCombine :
    (∀ first second : Filter, Junction.and.Combines [first, second] (first.andWith second)) ∧
    (∀ first second : Filter, Junction.or.Combines [first, second] (first.orWith second)) ∧
    ∀ (config : Config) (mapper : ColumnMapper) (history : List Command) (table : String)
      (groupFields : List String) (calls : List Restriction),
      let rows := calls.filterMap Restriction.rows?
      let groups := calls.filterMap Restriction.groups?
      let query := calls.foldl Query.refine ((Query.ofTable table).groupBy groupFields)
      let statement := (((Dialect.new config mapper).after history).query query).1
      Junction.and.Combines rows query.filter ∧
      Junction.and.Combines groups query.having ∧
      statement.sql = "SELECT *" ++ Query.tableText config table ++
        query.filter.clauseText config 0 " WHERE " ++
        Query.groupText config (query.filter.arguments config).length groupFields query.having ++
        ";" ∧
      statement.arguments = rows.flatMap (Filter.arguments config) ++
        if groupFields.isEmpty then [] else groups.flatMap (Filter.arguments config) := by
  refine ⟨fun first second => ?_, fun first second => ?_, ?_⟩
  · exact ((Junction.and.gathersOne first).extend second).combines
  · exact ((Junction.or.gathersOne first).extend second).combines
  · intro config mapper history table groupFields calls rows groups query statement
    have restricted : Junction.and.Gathers rows query.filter := by
      simp only [query, Query.refineAll]
      exact Junction.and.gathersNone.extendAll rows
    have grouped : Junction.and.Gathers groups query.having := by
      simp only [query, Query.refineAll]
      exact Junction.and.gathersNone.extendAll groups
    have written : statement = _ :=
      Query.refinedStatement config mapper history table groupFields calls
    rw [written, Query.filteredStatement, Filter.argumentsBound, Filter.argumentsBound,
      ← restricted.bound, ← grouped.bound]
    exact ⟨restricted.combines, grouped.combines, rfl, rfl⟩

end Sqlwright
