import Sqlwright.Proofs.Dialect.History
import Sqlwright.Proofs.Query.Sites
import Sqlwright.Proofs.Statement.Text

/-! The parts of a structured query. Its projection binds nothing, so the statements of a query
with one projection and with another have the same arguments and differ only in the list of
items. -/
namespace Sqlwright
open Identifier (Rules)

namespace Query

theorem piecesRaw {query : Query} {statement : Statement}
    (raw : query.statement? = some statement) : query.pieces = rawPieces statement := by
  obtain ⟨table, fields, distinct, joins, filter, groupFields, having, sorts, limit, offset, lock?,
    raw?⟩ := query
  have found : raw?.filter (!·.sql.isEmpty) = some statement := raw
  rw [Query.pieces, found]

def laterPieces (query : Query) : List Piece :=
  Piece.clause " GROUP BY " query.groupFields.isEmpty (Piece.fields "," query.groupFields ++
    Piece.clause " HAVING " query.having.isEmpty query.having.pieces) ++
  (orderPieces query.sorts query.offset ++ (windowPieces query.limit query.offset ++
    lockPieces query.lock?))

def tailPieces (query : Query) : List Piece :=
  tablePieces query.table ++ (Join.allPieces query.joins ++
    (Piece.clause " WHERE " query.filter.isEmpty query.filter.pieces ++ query.laterPieces))

theorem piecesStructured {query : Query} (structured : query.statement? = none) :
    query.pieces =
      selectPieces query.fields query.distinct query.limit query.offset ++ query.tailPieces := by
  obtain ⟨table, fields, distinct, joins, filter, groupFields, having, sorts, limit, offset, lock?,
    raw?⟩ := query
  have none : raw?.filter (!·.sql.isEmpty) = none := structured
  simp only [Query.pieces, none, tailPieces, laterPieces, List.append_assoc]

def headText (query : Query) : String :=
  "SELECT" ++ (if query.distinct then " DISTINCT" else "") ++
    if 0 < query.limit ∧ query.offset = 0 then " TOP " ++ toString query.limit else ""

def projectionText (items : List String) : String :=
  if items.isEmpty then " *" else " " ++ ", ".intercalate items

theorem selectOfTokens (config : Config) (count : Nat) (query : Query) :
    Token.joined config (Piece.allTokens config count
      (selectPieces query.fields query.distinct query.limit query.offset)) =
      query.headText ++ projectionText (query.fields.map (Rules.ofConfig config).escape) := by
  have optional : ∀ (present : Prop) [Decidable present] (sql : String) (count : Nat),
      Token.joined config (Piece.allTokens config count (if present then [.text sql] else [])) =
        if present then sql else "" := by
    intro present _ sql count
    split
    · exact Piece.textAlone ..
    · rfl
  have items : ∀ count, Token.joined config (Piece.allTokens config count
      (if query.fields.isEmpty then [.text " *"]
        else .text " " :: Piece.fields ", " query.fields)) =
      projectionText (query.fields.map (Rules.ofConfig config).escape) := by
    intro count
    unfold projectionText
    rw [List.isEmpty_map]
    split
    · rfl
    · rw [Piece.textOfTokens, Piece.fieldsOfTokens]
  unfold selectPieces headText
  simp only [Piece.allTokensAppend, Token.joinedAppend, optional, items, Piece.textAlone]

theorem projected (config : Config) {query : Query} (structured : query.statement? = none) :
    ∃ rest arguments, ∀ fields,
      Statement.empty.extended config (query.select fields).statementPieces =
        ⟨query.headText ++ projectionText (fields.map (Rules.ofConfig config).escape) ++ rest,
          arguments⟩ := by
  let tail := query.tailPieces ++ [.text ";"]
  refine ⟨Token.joined config (Piece.allTokens config 0 tail), Piece.allBound config tail,
    fun fields => ?_⟩
  have other : (query.select fields).statement? = none := structured
  have unbound : Piece.allBound config
      (selectPieces fields query.distinct query.limit query.offset) = [] :=
    Piece.boundWithoutSites config (sitesSelect ..)
  have head := (query.select fields).selectOfTokens config 0
  have pieces : (query.select fields).statementPieces =
      selectPieces fields query.distinct query.limit query.offset ++ tail := by
    rw [statementPieces, piecesStructured other, other, List.append_assoc]
    rfl
  rw [Statement.extendedEmpty, pieces, Piece.allTokensAppend, Token.joinedAppend,
    Piece.allBoundAppend, unbound]
  exact congrArg (fun text => Statement.mk (text ++ _) _) head

end Query

end Sqlwright
