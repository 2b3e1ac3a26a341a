import Sqlwright.Proofs.Statement.Site
import Sqlwright.Query.Pieces

/-! The values of a query in the order in which they are written, each with what becomes of it.
A raw statement leaves everything else unused, a join without a table its filter, and a query
without groups the filter on groups. The sites that are bound are those of the pieces. -/
namespace Sqlwright

namespace Piece

theorem sitesAppend (first second : List Piece) :
    allSites (first ++ second) = allSites first ++ allSites second :=
  List.flatMap_append

theorem sitesText (sql : String) (rest : List Piece) :
    allSites (.text sql :: rest) = allSites rest := rfl

theorem sitesSeparated (word : String) (parts : List (List Piece)) :
    allSites (separated word parts) = parts.flatMap allSites := by
  unfold separated
  induction parts with
  | nil => rfl
  | cons part rest ih =>
    cases rest with
    | nil => simp [allSites]
    | cons next later =>
      rw [List.intercalate_cons_cons, sitesAppend, sitesAppend, ih]
      simp [allSites, sites]

theorem sitesEnclosed (body : List Piece) : allSites (enclosed body) = allSites body := by
  simp [enclosed, allSites, sites]

theorem sitesGrouped (word : String) (parts : List (List Piece)) :
    allSites (grouped word parts) = parts.flatMap allSites := by
  unfold grouped
  split <;> simp [sitesEnclosed, sitesSeparated]

theorem sitesClause (word : String) (absent : Bool) (body : List Piece) :
    allSites (clause word absent body) = if absent then [] else allSites body := by
  unfold clause
  split <;> rfl

theorem sitesFields (separator : String) (names : List String) :
    allSites (fields separator names) = [] := by
  rw [fields, sitesSeparated]
  simp [List.flatMap_eq_nil_iff, allSites, sites]

end Piece

mutual

def Filter.sites : Filter → List Site
  | .and children => Filter.childSites children
  | .or children => Filter.childSites children
  | .not children => Filter.childSites children
  | .compare _ _ operand => operand.sites
  | .null _ _ => []
  | .among _ operands _ => Operand.allSites operands
  | .like _ pattern _ => [⟨.placed, pattern⟩]
  | .fragment _ values => Site.loose values
termination_by structural filter => filter

def Filter.childSites : List Filter → List Site
  | [] => []
  | child :: rest => child.sites ++ Filter.childSites rest
termination_by structural children => children

def Operand.sites : Operand → List Site
  | .value value => [⟨.placed, value⟩]
  | .query query => query.sites
  | .led _ query => query.sites
termination_by structural operand => operand

def Operand.allSites : List Operand → List Site
  | [] => []
  | operand :: rest => operand.sites ++ Operand.allSites rest
termination_by structural operands => operands

def Join.sites : Join → List Site
  | ⟨_, table, _, _, arguments, filter⟩ =>
      Site.loose arguments ++ Site.unusedIf table.isEmpty filter.sites
termination_by structural join => join

def Join.allSites : List Join → List Site
  | [] => []
  | join :: rest => join.sites ++ Join.allSites rest
termination_by structural joins => joins

def Query.sites : Query → List Site
  | ⟨_, _, _, joins, filter, groupFields, having, _, _, _, _, raw?⟩ =>
      let parts := Join.allSites joins ++ filter.sites ++
        Site.unusedIf groupFields.isEmpty having.sites
      match raw? with
      | none => parts
      | some statement =>
          if statement.sql.isEmpty then parts ++ Site.unused (Site.loose statement.arguments)
          else Site.unused parts ++ Site.loose statement.arguments
termination_by structural query => query

end

theorem Filter.emptyParts {children : List Filter} (empty : Filter.allEmpty children = true) :
    Filter.writtenParts children = [] := by
  induction children with
  | nil => rfl
  | cons child rest ih =>
    simp only [Filter.allEmpty, Bool.and_eq_true] at empty
    rw [Filter.writtenParts, if_pos empty.1, ih empty.2]

theorem Filter.emptyPieces {filter : Filter} (empty : filter.isEmpty = true) :
    filter.pieces = [] := by
  cases filter with
  | and children | or children =>
    rw [Filter.isEmpty] at empty
    simp [Filter.pieces, Filter.emptyParts empty, Piece.grouped, Piece.separated]
  | not children =>
    rw [Filter.isEmpty] at empty
    simp [Filter.pieces, empty, Piece.clause]
  | _ => simp [Filter.isEmpty] at empty

theorem Operand.sitesLead (operand : Operand) : Piece.allSites operand.lead = [] := by
  cases operand <;> rfl

theorem Filter.sitesOperandList (operands : List Operand) :
    Piece.allSites (Filter.operandList operands (Operand.bodies operands)) =
      (Operand.bodies operands).flatMap Piece.allSites := by
  have led : (List.zipWith (·.lead ++ ·) operands (Operand.bodies operands)).flatMap
      Piece.allSites = (Operand.bodies operands).flatMap Piece.allSites := by
    induction operands with
    | nil => rfl
    | cons operand rest ih =>
      simp only [Operand.bodies, List.zipWith_cons_cons, List.flatMap_cons,
        Piece.sitesAppend, Operand.sitesLead, List.nil_append, ih]
  unfold Filter.operandList
  split
  · simp [Operand.bodies]
  · simp [Operand.bodies]
  · rw [Piece.sitesEnclosed, Piece.sitesSeparated, led]

theorem Join.sitesPiecesWith (mode table source target : String) (arguments : List Value)
    (unfiltered : Bool) (condition : List Piece) :
    Piece.allSites
        (Join.piecesWith mode table source target arguments unfiltered condition) =
      Site.loose arguments ++
        if table.isEmpty then [] else if unfiltered then [] else Piece.allSites condition := by
  have linked : Piece.allSites
      (if !source.isEmpty && !target.isEmpty then
        [.text " ON ", .field source, .text "=", .field target] else []) = [] := by
    split <;> rfl
  have start : Piece.allSites [.text " ", .text mode, .arguments arguments] =
      Site.loose arguments := by
    simp [Piece.allSites, Piece.sites]
  unfold Join.piecesWith
  rw [Piece.sitesAppend, start]
  split
  · rfl
  · rw [Piece.sitesAppend, Piece.sitesAppend, linked, Piece.sitesClause]
    rfl

theorem Filter.sitesGuarded (filter : Filter) :
    (if filter.isEmpty then [] else Piece.allSites filter.pieces) =
      Piece.allSites filter.pieces := by
  split
  · rename_i empty
    rw [Filter.emptyPieces empty]
    rfl
  · rfl

namespace Query

theorem sitesSelect (fields : List String) (distinct : Bool) (limit offset : Nat) :
    Piece.allSites (selectPieces fields distinct limit offset) = [] := by
  have projection : Piece.allSites
      (if fields.isEmpty then [.text " *"] else .text " " :: Piece.fields ", " fields) = [] := by
    split
    · rfl
    · rw [Piece.sitesText, Piece.sitesFields]
  unfold selectPieces
  rw [Piece.sitesAppend, Piece.sitesAppend, Piece.sitesAppend, projection]
  split <;> split <;> rfl

theorem sitesTable (table : String) : Piece.allSites (tablePieces table) = [] := by
  unfold tablePieces
  split <;> rfl

theorem sitesOrder (sorts : List SortKey) (offset : Nat) :
    Piece.allSites (orderPieces sorts offset) = [] := by
  unfold orderPieces
  split
  · split <;> rfl
  · rw [Piece.sitesText, Piece.sitesSeparated]
    simp [List.flatMap_eq_nil_iff, sortPieces, Piece.allSites, Piece.sites]

theorem sitesWindow (limit offset : Nat) : Piece.allSites (windowPieces limit offset) = [] := by
  unfold windowPieces
  split
  · rfl
  · split <;> rfl

theorem sitesLock (lock? : Option String) : Piece.allSites (lockPieces lock?) = [] := by
  unfold lockPieces
  split
  · split <;> rfl
  · rfl

theorem sitesRaw (statement : Statement) :
    Piece.allSites (rawPieces statement) = Site.loose statement.arguments := by
  simp [rawPieces, Piece.allSites, Piece.sites]

end Query

mutual

theorem Filter.sitesOfPieces : ∀ filter : Filter,
    Piece.allSites filter.pieces = Site.bound filter.sites
  | .and children => by
      rw [Filter.pieces, Piece.sitesGrouped, Filter.sitesOfParts, Filter.sites]
  | .or children => by
      rw [Filter.pieces, Piece.sitesGrouped, Filter.sitesOfParts, Filter.sites]
  | .not children => by
      rw [Filter.pieces, Piece.sitesClause, Piece.sitesGrouped, Filter.sites,
        ← Filter.sitesOfParts]
      split
      · rename_i empty
        rw [Filter.emptyParts empty]
        rfl
      · rfl
  | .compare field comparison operand => by
      rw [Filter.pieces, Piece.sitesAppend, Operand.sitesOfBody, Filter.sites]
      show Piece.allSites operand.lead ++ _ = _
      rw [Operand.sitesLead, List.nil_append]
  | .null field negated => rfl
  | .among field operands negated => by
      rw [Filter.pieces, Filter.sites, ← Operand.sitesOfBodies]
      unfold Filter.amongPieces
      split
      · rename_i none
        rw [List.isEmpty_iff.mp none]
        rfl
      · exact Filter.sitesOperandList operands
  | .like field pattern negated => rfl
  | .fragment sql values => by
      rw [Filter.pieces, Filter.sites, Site.boundLoose]
      simp [Piece.allSites, Piece.sites]
termination_by structural filter => filter

theorem Filter.sitesOfParts : ∀ children : List Filter,
    (Filter.writtenParts children).flatMap Piece.allSites =
      Site.bound (Filter.childSites children)
  | [] => rfl
  | child :: rest => by
      rw [Filter.writtenParts, Filter.childSites, Site.boundAppend, ← Filter.sitesOfPieces child,
        ← Filter.sitesOfParts rest]
      split
      · rename_i empty
        simp [Filter.emptyPieces empty, Piece.allSites]
      · rw [List.flatMap_cons]
termination_by structural children => children

theorem Operand.sitesOfBody : ∀ operand : Operand,
    Piece.allSites operand.body = Site.bound operand.sites
  | .value value => rfl
  | .query query => by
      rw [Operand.body, Piece.sitesEnclosed, Query.sitesOfPieces, Operand.sites]
  | .led lead query => by
      rw [Operand.body, Piece.sitesEnclosed, Query.sitesOfPieces, Operand.sites]
termination_by structural operand => operand

theorem Operand.sitesOfBodies : ∀ operands : List Operand,
    (Operand.bodies operands).flatMap Piece.allSites = Site.bound (Operand.allSites operands)
  | [] => rfl
  | operand :: rest => by
      rw [Operand.bodies, List.flatMap_cons, Operand.sitesOfBody, Operand.sitesOfBodies,
        Operand.allSites, Site.boundAppend]
termination_by structural operands => operands

theorem Join.sitesOfPieces : ∀ join : Join,
    Piece.allSites join.pieces = Site.bound join.sites
  | ⟨mode, table, source, target, arguments, filter⟩ => by
      rw [Join.pieces, Join.sitesPiecesWith, Filter.sitesOfPieces, Join.sites, Site.boundAppend,
        Site.boundLoose, Site.boundUnusedIf, ← Filter.sitesOfPieces filter, Filter.sitesGuarded]
termination_by structural join => join

theorem Join.sitesOfAll : ∀ joins : List Join,
    Piece.allSites (Join.allPieces joins) = Site.bound (Join.allSites joins)
  | [] => rfl
  | join :: rest => by
      rw [Join.allPieces, Piece.sitesAppend, Join.sitesOfPieces, Join.sitesOfAll, Join.allSites,
        Site.boundAppend]
termination_by structural joins => joins

theorem Query.sitesOfPieces : ∀ query : Query,
    Piece.allSites query.pieces = Site.bound query.sites
  | ⟨table, fields, distinct, joins, filter, groupFields, having, sorts, limit, offset, lock?,
      raw?⟩ => by
      have parts : Piece.allSites
          (Query.pieces ⟨table, fields, distinct, joins, filter, groupFields, having, sorts,
            limit, offset, lock?, none⟩) =
          Site.bound (Join.allSites joins ++ filter.sites ++
            Site.unusedIf groupFields.isEmpty having.sites) := by
        simp only [Query.pieces, Option.filter_none, Piece.sitesAppend, Query.sitesSelect,
          Query.sitesTable, Query.sitesOrder, Query.sitesWindow, Query.sitesLock,
          Piece.sitesClause, Piece.sitesFields, List.nil_append, List.append_nil]
        rw [Filter.sitesGuarded filter, Filter.sitesGuarded having, Join.sitesOfAll,
          Filter.sitesOfPieces, Filter.sitesOfPieces, Site.boundAppend, Site.boundAppend,
          Site.boundUnusedIf]
      cases raw? with
      | none => rw [parts, Query.sites]
      | some statement =>
        rw [Query.sites]
        by_cases blank : statement.sql.isEmpty
        · simp only [blank, if_true]
          rw [Site.boundAppend, ← parts, Site.boundUnused]
          simp [Query.pieces, Option.filter, blank]
        · simp only [blank]
          rw [Query.pieces]
          simp [Option.filter, blank, Query.sitesRaw, Site.boundAppend, Site.boundUnused,
            Site.boundLoose]
termination_by structural query => query

end

theorem Query.sitesOfStatement (query : Query) :
    Piece.allSites query.statementPieces = Site.bound query.sites := by
  rw [Query.statementPieces, Piece.sitesAppend, Query.sitesOfPieces]
  split <;> simp [Piece.allSites, Piece.sites]

theorem Join.boundSites (join : Join) :
    Site.bound join.sites =
      Site.loose join.arguments ++
        if join.table.isEmpty then [] else Site.bound join.filter.sites := by
  cases join with
  | mk mode table source target arguments filter =>
    rw [Join.sites, Site.boundAppend, Site.boundLoose, Site.boundUnusedIf]

theorem Join.boundAllSites (joins : List Join) :
    Site.bound (Join.allSites joins) = joins.flatMap fun join => Site.bound join.sites := by
  induction joins with
  | nil => rfl
  | cons join rest ih => rw [Join.allSites, Site.boundAppend, ih, List.flatMap_cons]

theorem Query.boundSites (query : Query) :
    Site.bound query.sites =
      match query.statement? with
      | some statement => Site.loose statement.arguments
      | none =>
          (query.joins.flatMap fun join =>
            Site.loose join.arguments ++
              if join.table.isEmpty then [] else Site.bound join.filter.sites) ++
          Site.bound query.filter.sites ++
          if query.groupFields.isEmpty then [] else Site.bound query.having.sites := by
  cases query with
  | mk table fields distinct joins filter groupFields having sorts limit offset lock? raw? =>
    have parts : Site.bound (Join.allSites joins ++ filter.sites ++
        Site.unusedIf groupFields.isEmpty having.sites) =
        (joins.flatMap fun join => Site.loose join.arguments ++
          if join.table.isEmpty then [] else Site.bound join.filter.sites) ++
        Site.bound filter.sites ++
        if groupFields.isEmpty then [] else Site.bound having.sites := by
      rw [Site.boundAppend, Site.boundAppend, Site.boundUnusedIf, Join.boundAllSites]
      simp only [Join.boundSites]
    cases raw? with
    | none => rw [Query.sites]; exact parts
    | some statement =>
      rw [Query.sites]
      by_cases blank : statement.sql.isEmpty
      · simp only [blank, if_true, Query.statement?, Option.filter]
        rw [Site.boundAppend, Site.boundUnused, List.append_nil, parts]
        simp
      · simp [blank, Query.statement?, Option.filter, Site.boundAppend, Site.boundUnused,
          Site.boundLoose]

end Sqlwright
