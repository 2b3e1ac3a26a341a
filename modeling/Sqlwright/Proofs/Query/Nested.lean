import Sqlwright.Proofs.Query.Sites

/-! The queries that are written inside a filter or a query, at any depth. The pieces of each
stand in one block among the pieces around it. -/
namespace Sqlwright

namespace Piece

theorem infixSeparated {word : String} {part : List Piece} {parts : List (List Piece)}
    (member : part ∈ parts) : part <:+: separated word parts := by
  unfold separated
  induction parts with
  | nil => cases member
  | cons first rest ih =>
    cases rest with
    | nil =>
      have alone : [Piece.text word].intercalate [first] = first := List.intercalate_singleton
      rw [alone]
      exact List.mem_singleton.mp member ▸ List.infix_rfl
    | cons next later =>
      rw [List.intercalate_cons_cons]
      rcases List.mem_cons.mp member with same | inside
      · rw [same, List.append_assoc]
        exact List.infix_append_left
      · exact List.infix_append_of_infix_right (ih inside)

theorem infixEnclosed (body : List Piece) : body <:+: enclosed body :=
  ⟨[.text "("], [.text ")"], rfl⟩

theorem infixGrouped {word : String} {part : List Piece} {parts : List (List Piece)}
    (member : part ∈ parts) : part <:+: grouped word parts := by
  unfold grouped
  split
  · exact (infixSeparated member).trans (infixEnclosed _)
  · exact infixSeparated member

theorem infixClause {word : String} {absent : Bool} {inner body : List Piece}
    (inside : inner <:+: body) (present : absent = false) :
    inner <:+: clause word absent body := by
  rw [clause, present]
  exact List.infix_cons inside

end Piece

mutual

def Filter.queries : Filter → List Query
  | .and children => Filter.childQueries children
  | .or children => Filter.childQueries children
  | .not children => Filter.childQueries children
  | .compare _ _ operand => operand.queries
  | .null _ _ => []
  | .among _ operands _ => Operand.allQueries operands
  | .like _ _ _ => []
  | .fragment _ _ => []
termination_by structural filter => filter

def Filter.childQueries : List Filter → List Query
  | [] => []
  | child :: rest => child.queries ++ Filter.childQueries rest
termination_by structural children => children

def Operand.queries : Operand → List Query
  | .value _ => []
  | .query query => query :: query.queries
  | .led _ query => query :: query.queries
termination_by structural operand => operand

def Operand.allQueries : List Operand → List Query
  | [] => []
  | operand :: rest => operand.queries ++ Operand.allQueries rest
termination_by structural operands => operands

def Join.queries : Join → List Query
  | ⟨_, table, _, _, _, filter⟩ => if table.isEmpty then [] else filter.queries
termination_by structural join => join

def Join.allQueries : List Join → List Query
  | [] => []
  | join :: rest => join.queries ++ Join.allQueries rest
termination_by structural joins => joins

def Query.queries : Query → List Query
  | ⟨_, _, _, joins, filter, groupFields, having, _, _, _, _, raw?⟩ =>
      match raw?.filter (!·.sql.isEmpty) with
      | some _ => []
      | none =>
          Join.allQueries joins ++ filter.queries ++
            if groupFields.isEmpty then [] else having.queries
termination_by structural query => query

end

theorem Query.piecesNonempty (query : Query) : query.pieces ≠ [] := by
  cases query
  unfold Query.pieces
  split
  · simp [Query.rawPieces]
  · simp [Query.selectPieces]

theorem Filter.writtenAround {filter : Filter} {query : Query}
    (inside : query.pieces <:+: filter.pieces) : filter.isEmpty = false := by
  cases empty : filter.isEmpty with
  | false => rfl
  | true =>
    rw [Filter.emptyPieces empty] at inside
    exact absurd (List.eq_nil_of_infix_nil inside) query.piecesNonempty

theorem Filter.infixGuarded {word : String} {filter : Filter} {query : Query}
    (inside : query.pieces <:+: filter.pieces) :
    query.pieces <:+: Piece.clause word filter.isEmpty filter.pieces :=
  Piece.infixClause inside (Filter.writtenAround inside)

theorem Filter.infixOperandList {operands : List Operand} {body : List Piece}
    (member : body ∈ Operand.bodies operands) :
    body <:+: Filter.operandList operands (Operand.bodies operands) := by
  have led : ∃ part ∈ List.zipWith (·.lead ++ ·) operands (Operand.bodies operands),
      body <:+: part := by
    induction operands with
    | nil => cases member
    | cons operand rest ih =>
      rw [Operand.bodies, List.zipWith_cons_cons]
      rcases List.mem_cons.mp member with same | later
      · rw [same]
        exact ⟨_, List.mem_cons_self, List.infix_append_right⟩
      · obtain ⟨part, written, inside⟩ := ih later
        exact ⟨part, List.mem_cons_of_mem _ written, inside⟩
  unfold Filter.operandList
  split
  · exact List.infix_of_mem_flatten member
  · exact List.infix_of_mem_flatten member
  · obtain ⟨part, written, inside⟩ := led
    exact inside.trans ((Piece.infixSeparated written).trans (Piece.infixEnclosed _))

mutual

theorem Filter.queriesWritten : ∀ {filter : Filter} {query : Query}, query ∈ filter.queries →
    query.pieces <:+: filter.pieces
  | .and children, query, member => by
      rw [Filter.queries] at member
      obtain ⟨part, written, inside⟩ := Filter.childQueriesWritten member
      rw [Filter.pieces]
      exact inside.trans (Piece.infixGrouped written)
  | .or children, query, member => by
      rw [Filter.queries] at member
      obtain ⟨part, written, inside⟩ := Filter.childQueriesWritten member
      rw [Filter.pieces]
      exact inside.trans (Piece.infixGrouped written)
  | .not children, query, member => by
      rw [Filter.queries] at member
      obtain ⟨part, written, inside⟩ := Filter.childQueriesWritten member
      have present : Filter.allEmpty children = false := by
        cases empty : Filter.allEmpty children with
        | false => rfl
        | true =>
          rw [Filter.emptyParts empty] at written
          cases written
      rw [Filter.pieces]
      exact Piece.infixClause (inside.trans (Piece.infixGrouped written)) present
  | .compare field comparison operand, query, member => by
      rw [Filter.queries] at member
      rw [Filter.pieces]
      exact List.infix_append_of_infix_right (Operand.queriesWritten member)
  | .null .., query, member => by cases member
  | .among field operands negated, query, member => by
      rw [Filter.queries] at member
      obtain ⟨body, written, inside⟩ := Operand.allQueriesWritten member
      have listed : operands.isEmpty = false := by
        cases operands with
        | nil => cases member
        | cons => rfl
      rw [Filter.pieces, Filter.amongPieces, listed]
      exact List.infix_cons (List.infix_cons (inside.trans (Filter.infixOperandList written)))
  | .like .., query, member => by cases member
  | .fragment .., query, member => by cases member
termination_by structural filter => filter

theorem Filter.childQueriesWritten : ∀ {children : List Filter} {query : Query},
    query ∈ Filter.childQueries children →
      ∃ part ∈ Filter.writtenParts children, query.pieces <:+: part
  | [], query, member => by cases member
  | child :: rest, query, member => by
      rw [Filter.childQueries, List.mem_append] at member
      rw [Filter.writtenParts]
      rcases member with here | later
      · have inside := Filter.queriesWritten here
        rw [Filter.writtenAround inside]
        exact ⟨child.pieces, List.mem_cons_self, inside⟩
      · obtain ⟨part, written, inside⟩ := Filter.childQueriesWritten later
        refine ⟨part, ?_, inside⟩
        split
        · exact written
        · exact List.mem_cons_of_mem _ written
termination_by structural children => children

theorem Operand.queriesWritten : ∀ {operand : Operand} {query : Query},
    query ∈ operand.queries → query.pieces <:+: operand.body
  | .value _, query, member => by cases member
  | .query inner, query, member => by
      rw [Operand.queries] at member
      rw [Operand.body]
      rcases List.mem_cons.mp member with same | deeper
      · rw [same]
        exact Piece.infixEnclosed _
      · exact (Query.queriesWritten deeper).trans (Piece.infixEnclosed _)
  | .led _ inner, query, member => by
      rw [Operand.queries] at member
      rw [Operand.body]
      rcases List.mem_cons.mp member with same | deeper
      · rw [same]
        exact Piece.infixEnclosed _
      · exact (Query.queriesWritten deeper).trans (Piece.infixEnclosed _)
termination_by structural operand => operand

theorem Operand.allQueriesWritten : ∀ {operands : List Operand} {query : Query},
    query ∈ Operand.allQueries operands →
      ∃ body ∈ Operand.bodies operands, query.pieces <:+: body
  | [], query, member => by cases member
  | operand :: rest, query, member => by
      rw [Operand.allQueries, List.mem_append] at member
      rw [Operand.bodies]
      rcases member with here | later
      · exact ⟨operand.body, List.mem_cons_self, Operand.queriesWritten here⟩
      · obtain ⟨body, written, inside⟩ := Operand.allQueriesWritten later
        exact ⟨body, List.mem_cons_of_mem _ written, inside⟩
termination_by structural operands => operands

theorem Join.queriesWritten : ∀ {join : Join} {query : Query}, query ∈ join.queries →
    query.pieces <:+: join.pieces
  | ⟨mode, table, source, target, arguments, filter⟩, query, member => by
      rw [Join.queries] at member
      rw [Join.pieces, Join.piecesWith]
      split at member
      · cases member
      · rename_i named
        rw [if_neg named]
        exact List.infix_append_of_infix_right (List.infix_append_of_infix_right
          (Filter.infixGuarded (Filter.queriesWritten member)))
termination_by structural join => join

theorem Join.allQueriesWritten : ∀ {joins : List Join} {query : Query},
    query ∈ Join.allQueries joins → query.pieces <:+: Join.allPieces joins
  | [], query, member => by cases member
  | join :: rest, query, member => by
      rw [Join.allQueries, List.mem_append] at member
      rw [Join.allPieces]
      rcases member with here | later
      · exact List.infix_append_of_infix_left (Join.queriesWritten here)
      · exact List.infix_append_of_infix_right (Join.allQueriesWritten later)
termination_by structural joins => joins

theorem Query.queriesWritten : ∀ {query inner : Query}, inner ∈ query.queries →
    inner.pieces <:+: query.pieces
  | ⟨table, fields, distinct, joins, filter, groupFields, having, sorts, limit, offset, lock?,
      raw?⟩, inner, member => by
      rw [Query.queries] at member
      split at member
      · cases member
      · rename_i structured
        rw [Query.pieces, structured]
        simp only [List.mem_append] at member
        have body : inner.pieces <:+: Join.allPieces joins ++
            Piece.clause " WHERE " filter.isEmpty filter.pieces ++
            Piece.clause " GROUP BY " groupFields.isEmpty (Piece.fields "," groupFields ++
              Piece.clause " HAVING " having.isEmpty having.pieces) := by
          rcases member with (joined | filtered) | grouped
          · exact List.infix_append_of_infix_left (List.infix_append_of_infix_left
              (Join.allQueriesWritten joined))
          · exact List.infix_append_of_infix_left (List.infix_append_of_infix_right
              (Filter.infixGuarded (Filter.queriesWritten filtered)))
          · split at grouped
            · cases grouped
            · rename_i named
              refine List.infix_append_of_infix_right (Piece.infixClause ?_ (by simpa using named))
              exact List.infix_append_of_infix_right
                (Filter.infixGuarded (Filter.queriesWritten grouped))
        exact body.trans ⟨Query.selectPieces fields distinct limit offset ++
            Query.tablePieces table,
          Query.orderPieces sorts offset ++ Query.windowPieces limit offset ++
            Query.lockPieces lock?,
          by simp only [List.append_assoc]⟩
termination_by structural query => query

end

end Sqlwright
