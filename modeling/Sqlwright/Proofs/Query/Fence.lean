import Sqlwright.Proofs.Statement.Literal
import Sqlwright.Query.Pieces

/-! The literals of filters and queries. Each is the end of what it is part of, or a fence stands
behind it: the blank of the next word, the comma of a list or a parenthesis. The texts that are
taken as they stand follow a blank, so none of them can go on with a literal. -/
namespace Sqlwright

namespace Piece

theorem fencedGrouped {word : String} (fence : opensFenced [.text word] = true)
    {parts : List (List Piece)} (fenced : ∀ part ∈ parts, Fenced part) :
    Fenced (grouped word parts) := by
  unfold grouped
  split
  · exact fencedEnclosed (fencedSeparated fence fenced)
  · exact fencedSeparated fence fenced

theorem fencedClause (word : String) (absent : Bool) {body : List Piece} (fenced : Fenced body) :
    Fenced (clause word absent body) := by
  cases absent with
  | true => trivial
  | false => exact fencedText word fenced

theorem opensClause {word : String} (fence : opensFenced [.text word] = true) (absent : Bool)
    (body : List Piece) : opensFenced (clause word absent body) = true := by
  cases absent with
  | true => rfl
  | false => exact fence

end Piece

theorem Operand.plainLead (operand : Operand) : Piece.isPlain operand.lead = true := by
  cases operand <;> rfl

theorem Filter.fencedOperandList {operands : List Operand}
    (fenced : ∀ body ∈ Operand.bodies operands, Piece.Fenced body) :
    Piece.Fenced (Filter.operandList operands (Operand.bodies operands)) := by
  have led : ∀ part ∈ List.zipWith (·.lead ++ ·) operands (Operand.bodies operands),
      Piece.Fenced part := by
    induction operands with
    | nil => simp
    | cons operand rest ih =>
      obtain ⟨here, later⟩ := List.forall_mem_cons.mp fenced
      exact List.forall_mem_cons.mpr ⟨Piece.fencedBehind operand.plainLead here, ih later⟩
  unfold Filter.operandList
  split
  · simpa [Operand.bodies] using fenced
  · simpa [Operand.bodies] using fenced
  · exact Piece.fencedEnclosed (Piece.fencedSeparated rfl led)

theorem Join.fencedPiecesWith (mode table source target : String) (arguments : List Value)
    (unfiltered : Bool) {condition : List Piece} (fenced : Piece.Fenced condition) :
    Piece.Fenced (Join.piecesWith mode table source target arguments unfiltered condition) := by
  unfold Join.piecesWith
  refine Piece.fencedBehind rfl ?_
  split
  · trivial
  · refine Piece.fencedBehind (Piece.plainAppend rfl ?_) (Piece.fencedClause _ _ fenced)
    split <;> rfl

theorem Join.opensAll (joins : List Join) : Piece.opensFenced (Join.allPieces joins) = true := by
  cases joins with
  | nil => rfl
  | cons join rest =>
    cases join
    rfl

namespace Query

theorem plainSelect (fields : List String) (distinct : Bool) (limit offset : Nat) :
    Piece.isPlain (selectPieces fields distinct limit offset) = true := by
  unfold selectPieces
  refine Piece.plainAppend (Piece.plainAppend (Piece.plainAppend rfl ?_) ?_) ?_
  · split <;> rfl
  · split <;> rfl
  · split
    · rfl
    · exact Piece.plainFields ", " fields

theorem plainTable (table : String) : Piece.isPlain (tablePieces table) = true := by
  unfold tablePieces
  split <;> rfl

theorem plainOrder (sorts : List SortKey) (offset : Nat) :
    Piece.isPlain (orderPieces sorts offset) = true := by
  unfold orderPieces
  split
  · split <;> rfl
  · refine Piece.plainSeparated "," fun part listed => ?_
    obtain ⟨key, -, rfl⟩ := List.mem_map.mp listed
    rfl

theorem plainWindow (limit offset : Nat) : Piece.isPlain (windowPieces limit offset) = true := by
  unfold windowPieces
  split
  · rfl
  · split <;> rfl

theorem plainLock (lock? : Option String) : Piece.isPlain (lockPieces lock?) = true := by
  unfold lockPieces
  split
  · split <;> rfl
  · rfl

theorem opensOrder (sorts : List SortKey) (offset : Nat) :
    Piece.opensFenced (orderPieces sorts offset) = true := by
  unfold orderPieces
  split
  · split <;> rfl
  · rfl

theorem opensWindow (limit offset : Nat) :
    Piece.opensFenced (windowPieces limit offset) = true := by
  unfold windowPieces
  split
  · rfl
  · simp [Piece.opensFenced, String.toList_append, Piece.fences]

theorem opensLock (lock? : Option String) : Piece.opensFenced (lockPieces lock?) = true := by
  unfold lockPieces
  split
  · split <;> rfl
  · rfl

end Query

mutual

theorem Filter.fencedPieces : ∀ filter : Filter, Piece.Fenced filter.pieces
  | .and children => Piece.fencedGrouped rfl (Filter.fencedParts children)
  | .or children => Piece.fencedGrouped rfl (Filter.fencedParts children)
  | .not children =>
      Piece.fencedClause "NOT " _ (Piece.fencedGrouped rfl (Filter.fencedParts children))
  | .compare field comparison operand =>
      Piece.fencedField field (Piece.fencedText comparison.sql
        (Piece.fencedBehind operand.plainLead (Operand.fencedBody operand)))
  | .null .. => Piece.fencedPlain rfl
  | .among field operands negated => by
      rw [Filter.pieces, Filter.amongPieces]
      split
      · exact Piece.fencedPlain rfl
      · exact Piece.fencedField field (Piece.fencedText _
          (Filter.fencedOperandList (Operand.fencedBodies operands)))
  | .like field pattern _ =>
      Piece.fencedField field (Piece.fencedText _ (Piece.fencedOne (.value pattern)))
  | .fragment .. => Piece.fencedPlain rfl
termination_by structural filter => filter

theorem Filter.fencedParts : ∀ children : List Filter,
    ∀ part ∈ Filter.writtenParts children, Piece.Fenced part
  | [] => List.forall_mem_nil _
  | child :: rest => by
      rw [Filter.writtenParts]
      split
      · exact Filter.fencedParts rest
      · exact List.forall_mem_cons.mpr ⟨Filter.fencedPieces child, Filter.fencedParts rest⟩
termination_by structural children => children

theorem Operand.fencedBody : ∀ operand : Operand, Piece.Fenced operand.body
  | .value value => Piece.fencedOne (.value value)
  | .query query => Piece.fencedEnclosed (Query.fencedPieces query)
  | .led _ query => Piece.fencedEnclosed (Query.fencedPieces query)
termination_by structural operand => operand

theorem Operand.fencedBodies : ∀ operands : List Operand,
    ∀ body ∈ Operand.bodies operands, Piece.Fenced body
  | [] => List.forall_mem_nil _
  | operand :: rest =>
      List.forall_mem_cons.mpr ⟨Operand.fencedBody operand, Operand.fencedBodies rest⟩
termination_by structural operands => operands

theorem Join.fencedPieces : ∀ join : Join, Piece.Fenced join.pieces
  | ⟨mode, table, source, target, arguments, filter⟩ =>
      Join.fencedPiecesWith mode table source target arguments filter.isEmpty
        (Filter.fencedPieces filter)
termination_by structural join => join

theorem Join.fencedAll : ∀ joins : List Join, Piece.Fenced (Join.allPieces joins)
  | [] => trivial
  | join :: rest =>
      Piece.fencedAppend (Join.fencedPieces join) (Join.opensAll rest) (Join.fencedAll rest)
termination_by structural joins => joins

theorem Query.fencedPieces : ∀ query : Query, Piece.Fenced query.pieces
  | ⟨table, fields, distinct, joins, filter, groupFields, having, sorts, limit, offset, lock?,
      raw?⟩ => by
      rw [Query.pieces]
      split
      · exact Piece.fencedPlain rfl
      · have joined : Piece.Fenced (Query.selectPieces fields distinct limit offset ++
            Query.tablePieces table ++ Join.allPieces joins) :=
          Piece.fencedBehind (Piece.plainAppend (Query.plainSelect fields distinct limit offset)
            (Query.plainTable table)) (Join.fencedAll joins)
        have rows : Piece.Fenced (Piece.clause " WHERE " filter.isEmpty filter.pieces) :=
          Piece.fencedClause _ _ (Filter.fencedPieces filter)
        have groups : Piece.Fenced (Piece.clause " GROUP BY " groupFields.isEmpty
            (Piece.fields "," groupFields ++
              Piece.clause " HAVING " having.isEmpty having.pieces)) :=
          Piece.fencedClause _ _ (Piece.fencedBehind (Piece.plainFields "," groupFields)
            (Piece.fencedClause _ _ (Filter.fencedPieces having)))
        have filtered := Piece.fencedAppend joined (Piece.opensClause rfl _ _) rows
        have grouped := Piece.fencedAppend filtered (Piece.opensClause rfl _ _) groups
        have ordered := Piece.fencedAppend grouped (Query.opensOrder sorts offset)
          (Piece.fencedPlain (Query.plainOrder sorts offset))
        have cut := Piece.fencedAppend ordered (Query.opensWindow limit offset)
          (Piece.fencedPlain (Query.plainWindow limit offset))
        exact Piece.fencedAppend cut (Query.opensLock lock?)
          (Piece.fencedPlain (Query.plainLock lock?))
termination_by structural query => query

end

theorem Query.fencedStatement (query : Query) : Piece.Fenced query.statementPieces := by
  rw [Query.statementPieces]
  split
  · rw [List.append_nil]
    exact query.fencedPieces
  · exact Piece.fencedAppend query.fencedPieces rfl (Piece.fencedPlain rfl)

end Sqlwright
