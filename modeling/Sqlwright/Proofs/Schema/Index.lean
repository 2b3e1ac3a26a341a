import Sqlwright.Proofs.Query.Embedding
import Sqlwright.Proofs.Statement.Mode
import Sqlwright.Schema.Index

/-! The statement for an index. Only the filter of an index that is created has values; what
stands before and after it has none. A statement that is sent without arguments keeps the values
written in it and loses those bound for placeholders that a text of the filter has. -/
namespace Sqlwright

namespace Piece

theorem sitesOptions (text : String) : allSites (options text) = [] := by
  unfold options
  split <;> rfl

theorem sitesColumnList (names : List String) : allSites (columnList names) = [] := by
  rw [columnList, sitesText, sitesEnclosed, sitesFields]

theorem spelledWithoutSites {pieces : List Piece} (none : allSites pieces = [])
    (config : Config) (count other : Nat) :
    Token.spelled config (allTokens config.binding count pieces) =
      Token.joined config (allTokens config other pieces) := by
  induction pieces generalizing count other with
  | nil => rfl
  | cons piece rest ih =>
    obtain ⟨here, later⟩ := List.append_eq_nil_iff.mp none
    have first : Token.spelled config (piece.tokens config.binding count) =
        Token.joined config (piece.tokens config other) := by
      cases piece with
      | value item => cases here
      | _ => rfl
    rw [allTokens, allTokens, Token.spelledAppend, Token.joinedAppend, first]
    exact congrArg _ (ih later _ _)

end Piece

namespace Index

def leadPieces (index : Index) : List Piece :=
  (if index.optional then index.absenceGuard else []) ++
  [.text "CREATE "] ++
  (if index.unique then [.text "UNIQUE NONCLUSTERED "] else []) ++
  [.text "INDEX ", .field index.name, .text " ON ", .field index.table] ++
  Piece.columnList index.columns ++
  Piece.clause " WHERE " (!index.unique) (presencePieces index.columns) ++
  if index.filter.isEmpty then [] else [.text (if index.unique then " AND " else " WHERE ")]

def closingPieces (index : Index) : List Piece := Piece.options index.options ++ [.text ";"]

theorem createAround (index : Index) :
    index.createPieces = index.leadPieces ++ index.filter.pieces := by
  cases empty : index.filter.isEmpty with
  | true =>
    have nothing := Filter.emptyPieces empty
    simp [createPieces, leadPieces, Piece.clause, empty, nothing]
  | false => simp [createPieces, leadPieces, Piece.clause, empty]

theorem sitesPresence (columns : List String) :
    Piece.allSites (presencePieces columns) = [] := by
  rw [presencePieces, Piece.sitesSeparated]
  simp [List.flatMap_eq_nil_iff, Piece.allSites, Piece.sites]

theorem sitesLead (index : Index) : Piece.allSites index.leadPieces = [] := by
  have guarded : Piece.allSites (if index.optional then index.absenceGuard else []) = [] := by
    split <;> rfl
  have unique : Piece.allSites
      (if index.unique then [.text "UNIQUE NONCLUSTERED "] else []) = [] := by
    split <;> rfl
  have connective : Piece.allSites (if index.filter.isEmpty then []
      else [.text (if index.unique then " AND " else " WHERE ")]) = [] := by
    split <;> rfl
  have present : Piece.allSites
      (Piece.clause " WHERE " (!index.unique) (presencePieces index.columns)) = [] := by
    rw [Piece.sitesClause, sitesPresence, ite_self]
  simp only [leadPieces, Piece.sitesAppend, guarded, unique, connective, present,
    Piece.sitesColumnList]
  rfl

theorem sitesClosing (index : Index) : Piece.allSites index.closingPieces = [] := by
  rw [closingPieces, Piece.sitesAppend, Piece.sitesOptions]
  rfl

def sites (index : Index) : List Site :=
  Site.unusedIf (index.operation != .create) index.filter.sites

theorem sketchCreate {index : Index} (created : index.operation = .create) :
    index.sketch = .of (index.leadPieces ++ index.filter.pieces ++ index.closingPieces) := by
  simp only [sketch, created, ended, createAround, closingPieces, List.append_assoc]

theorem sketchOpen {index : Index} (done : index.sketch.obstacle? = none) :
    index.operation = .create ∨ index.operation = .drop := by
  cases operation : index.operation with
  | create => exact .inl rfl
  | drop => exact .inr rfl
  | alter => simp [sketch, operation, Sketch.stopped] at done
  | rename => simp [sketch, operation, Sketch.stopped] at done

theorem sitesOfPieces {index : Index} (done : index.sketch.obstacle? = none) :
    Piece.allSites index.sketch.pieces = Site.bound index.sites := by
  rw [sites, Site.boundUnusedIf]
  rcases sketchOpen done with created | dropped
  · have pieces : index.sketch.pieces =
        index.leadPieces ++ index.filter.pieces ++ index.closingPieces := by
      rw [sketchCreate created]
      rfl
    rw [pieces, Piece.sitesAppend, Piece.sitesAppend, sitesLead, sitesClosing,
      Filter.sitesOfPieces, created]
    simp
  · have guarded : Piece.allSites (if index.optional then [.text "IF EXISTS "] else []) = [] := by
      split <;> rfl
    simp only [sketch, dropped, ended, Sketch.of, dropPieces, Piece.sitesAppend,
      Piece.sitesOptions, guarded]
    rfl

end Index

def Index.filtered (filter : Filter) : Index where
  operation := .create
  table := "loan"
  name := "ix"
  columns := ["year"]
  unique := true
  optional := true
  filter := filter
  options := ""

def Filter.overdue : Filter :=
  .or [.compare "state" .unequal (.value (.string "o'k")),
    .among "id" [.value .null, .query { Query.ofTable "reminder" with
      joins := [.raw "CROSS APPLY due(@p2)" [.int 7]]
      filter := .like "note" (.string "late%") false }] true]

end Sqlwright
