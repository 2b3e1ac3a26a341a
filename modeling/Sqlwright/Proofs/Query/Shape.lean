import Sqlwright.Proofs.Query.Sites
import Sqlwright.Proofs.Statement.Shape

/-! Shapes of filters and queries. What is skipped, grouped or left out depends on the shape
alone, so the pieces of a shape are the shapes of the pieces, and its values stand at the same
sites. -/
namespace Sqlwright

def Statement.shape (statement : Statement) : Statement :=
  { statement with arguments := statement.arguments.map Value.shape }

mutual

def Filter.shape : Filter → Filter
  | .and children => .and (Filter.childShapes children)
  | .or children => .or (Filter.childShapes children)
  | .not children => .not (Filter.childShapes children)
  | .compare field comparison operand => .compare field comparison operand.shape
  | .null field negated => .null field negated
  | .among field operands negated => .among field (Operand.allShapes operands) negated
  | .like field pattern negated => .like field pattern.shape negated
  | .fragment sql values => .fragment sql (values.map Value.shape)
termination_by structural filter => filter

def Filter.childShapes : List Filter → List Filter
  | [] => []
  | child :: rest => child.shape :: Filter.childShapes rest
termination_by structural children => children

def Operand.shape : Operand → Operand
  | .value value => .value value.shape
  | .query query => .query query.shape
  | .led lead query => .led lead query.shape
termination_by structural operand => operand

def Operand.allShapes : List Operand → List Operand
  | [] => []
  | operand :: rest => operand.shape :: Operand.allShapes rest
termination_by structural operands => operands

def Join.shape : Join → Join
  | ⟨mode, table, source, target, arguments, filter⟩ =>
      ⟨mode, table, source, target, arguments.map Value.shape, filter.shape⟩
termination_by structural join => join

def Join.allShapes : List Join → List Join
  | [] => []
  | join :: rest => join.shape :: Join.allShapes rest
termination_by structural joins => joins

def Query.shape : Query → Query
  | ⟨table, fields, distinct, joins, filter, groupFields, having, sorts, limit, offset, lock?,
      raw?⟩ =>
      ⟨table, fields, distinct, Join.allShapes joins, filter.shape, groupFields, having.shape,
        sorts, limit, offset, lock?, raw?.map Statement.shape⟩
termination_by structural query => query

end

mutual

theorem Filter.shapeEmpty : ∀ filter : Filter, filter.shape.isEmpty = filter.isEmpty
  | .and children => Filter.childShapesEmpty children
  | .or children => Filter.childShapesEmpty children
  | .not children => Filter.childShapesEmpty children
  | .compare .. => rfl
  | .null .. => rfl
  | .among .. => rfl
  | .like .. => rfl
  | .fragment .. => rfl
termination_by structural filter => filter

theorem Filter.childShapesEmpty : ∀ children : List Filter,
    Filter.allEmpty (Filter.childShapes children) = Filter.allEmpty children
  | [] => rfl
  | child :: rest => by
      rw [Filter.childShapes, Filter.allEmpty, Filter.shapeEmpty child,
        Filter.childShapesEmpty rest, Filter.allEmpty]
termination_by structural children => children

end

namespace Piece

theorem shapesGrouped (word : String) (parts : List (List Piece)) :
    shapes (grouped word parts) = grouped word (parts.map shapes) := by
  unfold grouped
  rw [List.length_map]
  split
  · rw [shapesEnclosed, shapesSeparated]
  · exact shapesSeparated word parts

theorem shapesClause (word : String) (absent : Bool) (body : List Piece) :
    shapes (clause word absent body) = clause word absent (shapes body) := by
  cases absent <;> rfl

end Piece

theorem Operand.leadShape (operand : Operand) : operand.shape.lead = operand.lead := by
  cases operand <;> rfl

theorem Filter.shapesOperandList (operands : List Operand) (bodies : List (List Piece)) :
    Filter.operandList (Operand.allShapes operands) (bodies.map Piece.shapes) =
      Piece.shapes (Filter.operandList operands bodies) := by
  have led : List.zipWith (·.lead ++ ·) (Operand.allShapes operands) (bodies.map Piece.shapes) =
      (List.zipWith (·.lead ++ ·) operands bodies).map Piece.shapes := by
    induction operands generalizing bodies with
    | nil => rfl
    | cons operand rest ih =>
      cases bodies with
      | nil => rfl
      | cons body later =>
        simp only [Operand.allShapes, List.map_cons, List.zipWith_cons_cons, ih,
          Operand.leadShape, Piece.shapesAppend,
          Piece.shapesWithoutSites operand.sitesLead]
  have several : Piece.enclosed (Piece.separated "," (List.zipWith (·.lead ++ ·)
        (Operand.allShapes operands) (bodies.map Piece.shapes))) =
      Piece.shapes (Piece.enclosed (Piece.separated "," (List.zipWith (·.lead ++ ·)
        operands bodies))) := by
    rw [led, Piece.shapesEnclosed, Piece.shapesSeparated]
  have lone : (bodies.map Piece.shapes).flatten = Piece.shapes bodies.flatten :=
    List.map_flatten.symm
  cases operands with
  | nil => exact several
  | cons operand rest =>
    cases rest with
    | nil =>
      cases operand with
      | value => exact several
      | query => exact lone
      | led => exact lone
    | cons next later => cases operand <;> exact several

theorem Filter.shapesAmong (field : String) (operands : List Operand)
    (bodies : List (List Piece)) (negated : Bool) :
    Filter.amongPieces field (Operand.allShapes operands) (bodies.map Piece.shapes) negated =
      Piece.shapes (Filter.amongPieces field operands bodies negated) := by
  cases operands with
  | nil => rfl
  | cons operand rest =>
    show Piece.field field :: .text _ :: Filter.operandList _ _ = _
    rw [Filter.shapesOperandList]
    rfl

theorem Join.shapesPiecesWith (mode table source target : String) (arguments : List Value)
    (unfiltered : Bool) (condition : List Piece) :
    Piece.shapes (Join.piecesWith mode table source target arguments unfiltered condition) =
      Join.piecesWith mode table source target (arguments.map Value.shape) unfiltered
        (Piece.shapes condition) := by
  simp only [Join.piecesWith]
  rw [Piece.shapesAppend]
  split
  · rfl
  · rw [Piece.shapesAppend, Piece.shapesAppend, Piece.shapesClause]
    split <;> rfl

mutual

theorem Filter.shapePieces : ∀ filter : Filter,
    filter.shape.pieces = Piece.shapes filter.pieces
  | .and children => by
      rw [Filter.shape, Filter.pieces, Filter.shapeParts, Filter.pieces, Piece.shapesGrouped]
  | .or children => by
      rw [Filter.shape, Filter.pieces, Filter.shapeParts, Filter.pieces, Piece.shapesGrouped]
  | .not children => by
      rw [Filter.shape, Filter.pieces, Filter.shapeParts, Filter.childShapesEmpty,
        Filter.pieces, Piece.shapesClause, Piece.shapesGrouped]
  | .compare field comparison operand => by
      have lead : Piece.shapes (.field field :: .text comparison.sql :: operand.lead) =
          .field field :: .text comparison.sql :: operand.lead :=
        Piece.shapesWithoutSites operand.sitesLead
      rw [Filter.shape, Filter.pieces, Operand.leadShape, Operand.shapeBody, Filter.pieces,
        Piece.shapesAppend, lead]
  | .null .. => rfl
  | .among field operands negated => by
      rw [Filter.shape, Filter.pieces, Operand.shapeBodies, Filter.shapesAmong, Filter.pieces]
  | .like .. => rfl
  | .fragment .. => rfl
termination_by structural filter => filter

theorem Filter.shapeParts : ∀ children : List Filter,
    Filter.writtenParts (Filter.childShapes children) =
      (Filter.writtenParts children).map Piece.shapes
  | [] => rfl
  | child :: rest => by
      rw [Filter.childShapes, Filter.writtenParts, Filter.shapeEmpty child,
        Filter.shapePieces child, Filter.shapeParts rest, Filter.writtenParts]
      split <;> rfl
termination_by structural children => children

theorem Operand.shapeBody : ∀ operand : Operand,
    operand.shape.body = Piece.shapes operand.body
  | .value value => rfl
  | .query query => by
      rw [Operand.shape, Operand.body, Query.shapePieces, Operand.body, Piece.shapesEnclosed]
  | .led lead query => by
      rw [Operand.shape, Operand.body, Query.shapePieces, Operand.body, Piece.shapesEnclosed]
termination_by structural operand => operand

theorem Operand.shapeBodies : ∀ operands : List Operand,
    Operand.bodies (Operand.allShapes operands) = (Operand.bodies operands).map Piece.shapes
  | [] => rfl
  | operand :: rest => by
      rw [Operand.allShapes, Operand.bodies, Operand.shapeBody operand,
        Operand.shapeBodies rest, Operand.bodies, List.map_cons]
termination_by structural operands => operands

theorem Join.shapePieces : ∀ join : Join, join.shape.pieces = Piece.shapes join.pieces
  | ⟨mode, table, source, target, arguments, filter⟩ => by
      rw [Join.shape, Join.pieces, Filter.shapeEmpty, Filter.shapePieces, Join.pieces,
        Join.shapesPiecesWith]
termination_by structural join => join

theorem Join.shapeAllPieces : ∀ joins : List Join,
    Join.allPieces (Join.allShapes joins) = Piece.shapes (Join.allPieces joins)
  | [] => rfl
  | join :: rest => by
      rw [Join.allShapes, Join.allPieces, Join.shapePieces, Join.shapeAllPieces, Join.allPieces,
        Piece.shapesAppend]
termination_by structural joins => joins

theorem Query.shapePieces : ∀ query : Query,
    query.shape.pieces = Piece.shapes query.pieces
  | ⟨table, fields, distinct, joins, filter, groupFields, having, sorts, limit, offset, lock?,
      raw?⟩ => by
      have parts : Query.pieces (Query.shape ⟨table, fields, distinct, joins, filter, groupFields,
            having, sorts, limit, offset, lock?, none⟩) =
          Piece.shapes (Query.pieces ⟨table, fields, distinct, joins, filter, groupFields,
            having, sorts, limit, offset, lock?, none⟩) := by
        simp only [Query.shape, Query.pieces, Option.map_none, Option.filter_none,
          Piece.shapesAppend, Piece.shapesClause,
          Piece.shapesWithoutSites (Query.sitesSelect ..),
          Piece.shapesWithoutSites (Query.sitesTable ..),
          Piece.shapesWithoutSites (Piece.sitesFields ..),
          Piece.shapesWithoutSites (Query.sitesOrder ..),
          Piece.shapesWithoutSites (Query.sitesWindow ..),
          Piece.shapesWithoutSites (Query.sitesLock ..),
          Filter.shapeEmpty, Filter.shapePieces filter, Filter.shapePieces having,
          Join.shapeAllPieces joins]
      cases raw? with
      | none => exact parts
      | some statement =>
        by_cases blank : statement.sql.isEmpty
        · simpa [Query.shape, Query.pieces, Option.filter, Statement.shape, blank] using parts
        · simp [Query.shape, Query.pieces, Option.filter, Statement.shape, blank,
            Query.rawPieces, Piece.shapes, Piece.shape]
termination_by structural query => query

end

mutual

theorem Filter.shapeSites : ∀ filter : Filter,
    filter.shape.sites = filter.sites.map Site.shape
  | .and children => Filter.childShapeSites children
  | .or children => Filter.childShapeSites children
  | .not children => Filter.childShapeSites children
  | .compare _ _ operand => Operand.shapeSites operand
  | .null .. => rfl
  | .among _ operands _ => Operand.allShapeSites operands
  | .like .. => rfl
  | .fragment _ values => (Site.shapesLoose values).symm
termination_by structural filter => filter

theorem Filter.childShapeSites : ∀ children : List Filter,
    Filter.childSites (Filter.childShapes children) = (Filter.childSites children).map Site.shape
  | [] => rfl
  | child :: rest => by
      rw [Filter.childShapes, Filter.childSites, Filter.shapeSites, Filter.childShapeSites,
        Filter.childSites, List.map_append]
termination_by structural children => children

theorem Operand.shapeSites : ∀ operand : Operand,
    operand.shape.sites = operand.sites.map Site.shape
  | .value _ => rfl
  | .query query => Query.shapeSites query
  | .led _ query => Query.shapeSites query
termination_by structural operand => operand

theorem Operand.allShapeSites : ∀ operands : List Operand,
    Operand.allSites (Operand.allShapes operands) = (Operand.allSites operands).map Site.shape
  | [] => rfl
  | operand :: rest => by
      rw [Operand.allShapes, Operand.allSites, Operand.shapeSites, Operand.allShapeSites,
        Operand.allSites, List.map_append]
termination_by structural operands => operands

theorem Join.shapeSites : ∀ join : Join, join.shape.sites = join.sites.map Site.shape
  | ⟨mode, table, source, target, arguments, filter⟩ => by
      rw [Join.shape, Join.sites, Filter.shapeSites, Join.sites, List.map_append,
        Site.shapesLoose, Site.shapesUnusedIf]
termination_by structural join => join

theorem Join.allShapeSites : ∀ joins : List Join,
    Join.allSites (Join.allShapes joins) = (Join.allSites joins).map Site.shape
  | [] => rfl
  | join :: rest => by
      rw [Join.allShapes, Join.allSites, Join.shapeSites, Join.allShapeSites, Join.allSites,
        List.map_append]
termination_by structural joins => joins

theorem Query.shapeSites : ∀ query : Query, query.shape.sites = query.sites.map Site.shape
  | ⟨table, fields, distinct, joins, filter, groupFields, having, sorts, limit, offset, lock?,
      raw?⟩ => by
      have parts : Join.allSites (Join.allShapes joins) ++ filter.shape.sites ++
            Site.unusedIf groupFields.isEmpty having.shape.sites =
          (Join.allSites joins ++ filter.sites ++
            Site.unusedIf groupFields.isEmpty having.sites).map Site.shape := by
        rw [Filter.shapeSites filter, Filter.shapeSites having, Join.allShapeSites joins,
          List.map_append, List.map_append, Site.shapesUnusedIf]
      cases raw? with
      | none => exact parts
      | some statement =>
        simp only [Query.shape, Query.sites, Option.map_some, Statement.shape, parts]
        split
        · rw [← Site.shapesLoose, ← Site.shapesUnused, ← List.map_append]
        · rw [← Site.shapesLoose, ← Site.shapesUnused, ← List.map_append]
termination_by structural query => query

end

theorem Query.shapeStatement (query : Query) :
    query.shape.statementPieces = Piece.shapes query.statementPieces := by
  have raw : query.shape.statement?.isSome = query.statement?.isSome := by
    cases query with
    | mk table fields distinct joins filter groupFields having sorts limit offset lock? raw? =>
      cases raw? with
      | none => rfl
      | some statement =>
        by_cases blank : statement.sql.isEmpty <;>
          simp [Query.shape, Query.statement?, Option.filter, Statement.shape, blank]
  rw [Query.statementPieces, Query.shapePieces, raw, Query.statementPieces, Piece.shapesAppend]
  split <;> rfl

theorem Query.valuesPaired {first second : Query} (alike : first.shape = second.shape) :
    List.Forall₂ (Value.Paired (first.sites.map Site.value) (second.sites.map Site.value))
      ((Piece.allSites first.statementPieces).map Site.value)
      ((Piece.allSites second.statementPieces).map Site.value) := by
  rw [Query.sitesOfStatement, Query.sitesOfStatement]
  apply Site.boundPaired
  rw [← Query.shapeSites, ← Query.shapeSites, alike]

end Sqlwright
