import Sqlwright.Proofs.Query.Sites

/-! The normal form of a filter: nothing that is skipped, no junction of a single filter, and
under every negation one filter. It is written exactly as the filter itself. -/
namespace Sqlwright

inductive Junction where
  | and | or
  deriving DecidableEq, Repr

namespace Junction

def filter : Junction → List Filter → Filter
  | .and, children => .and children
  | .or, children => .or children

def sql : Junction → String
  | .and => " AND "
  | .or => " OR "

def group (junction : Junction) : List Filter → Filter
  | [only] => only
  | children => junction.filter children

end Junction

mutual

def Filter.normal : Filter → Filter
  | .and children => Junction.and.group (Filter.normals children)
  | .or children => Junction.or.group (Filter.normals children)
  | .not children => .not [Junction.and.group (Filter.normals children)]
  | filter => filter
termination_by structural filter => filter

def Filter.normals : List Filter → List Filter
  | [] => []
  | child :: rest =>
      if child.isEmpty then Filter.normals rest else child.normal :: Filter.normals rest
termination_by structural children => children

def Filter.isNormal : Filter → Bool
  | .and children => decide (1 < children.length) && Filter.allNormal children
  | .or children => decide (1 < children.length) && Filter.allNormal children
  | .not children => children.length == 1 && Filter.allNormal children
  | _ => true
termination_by structural filter => filter

def Filter.allNormal : List Filter → Bool
  | [] => true
  | child :: rest => child.isNormal && Filter.allNormal rest
termination_by structural children => children

end

theorem Piece.groupedOne (word : String) (part : List Piece) : grouped word [part] = part := by
  simp [grouped, separated]

namespace Junction

theorem filterEmpty (junction : Junction) (children : List Filter) :
    (junction.filter children).isEmpty = Filter.allEmpty children := by
  cases junction <;> rfl

theorem filterPieces (junction : Junction) (children : List Filter) :
    (junction.filter children).pieces =
      Piece.grouped junction.sql (Filter.writtenParts children) := by
  cases junction <;> rfl

theorem groupEmpty (junction : Junction) (children : List Filter) :
    (junction.group children).isEmpty = Filter.allEmpty children := by
  unfold group
  split
  · simp [Filter.allEmpty]
  · exact junction.filterEmpty children

theorem groupPieces (junction : Junction) (children : List Filter) :
    (junction.group children).pieces =
      Piece.grouped junction.sql (Filter.writtenParts children) := by
  unfold group
  split
  · rename_i only
    cases empty : only.isEmpty with
    | true =>
      rw [Filter.emptyPieces empty, Filter.writtenParts, if_pos empty]
      rfl
    | false => simp [Filter.writtenParts, empty, Piece.groupedOne]
  · exact junction.filterPieces children

theorem groupNormal (junction : Junction) {children : List Filter} (some : children ≠ [])
    (normal : Filter.allNormal children = true) : (junction.group children).isNormal = true := by
  unfold group
  split
  · simpa [Filter.allNormal] using normal
  · rename_i several
    have size : 1 < children.length := by
      match children, some with
      | [only], _ => exact absurd rfl (several only)
      | _ :: _ :: rest, _ => simp
    cases junction <;> simp [filter, Filter.isNormal, size, normal]

end Junction

/- A skipped filter is left out of the list, so the lengths that decide on parentheses are those
of the written children. -/
mutual

theorem Filter.normalEmpty : ∀ filter : Filter, filter.normal.isEmpty = filter.isEmpty
  | .and children => by
      rw [Filter.normal, Junction.groupEmpty, Filter.normalsEmpty, Filter.isEmpty]
  | .or children => by
      rw [Filter.normal, Junction.groupEmpty, Filter.normalsEmpty, Filter.isEmpty]
  | .not children => by
      rw [Filter.normal, Filter.isEmpty, Filter.allEmpty, Junction.groupEmpty,
        Filter.normalsEmpty, Filter.isEmpty]
      simp [Filter.allEmpty]
  | .compare .. => rfl
  | .null .. => rfl
  | .among .. => rfl
  | .like .. => rfl
  | .fragment .. => rfl
termination_by structural filter => filter

theorem Filter.normalsEmpty : ∀ children : List Filter,
    Filter.allEmpty (Filter.normals children) = Filter.allEmpty children
  | [] => rfl
  | child :: rest => by
      rw [Filter.normals, Filter.allEmpty, ← Filter.normalEmpty child]
      cases empty : child.normal.isEmpty with
      | true => simp [Filter.normalsEmpty rest]
      | false => simp [Filter.allEmpty, empty]
termination_by structural children => children

end

mutual

theorem Filter.normalPieces : ∀ filter : Filter, filter.normal.pieces = filter.pieces
  | .and children => by
      rw [Filter.normal, Junction.groupPieces, Filter.normalParts, Filter.pieces]
      rfl
  | .or children => by
      rw [Filter.normal, Junction.groupPieces, Filter.normalParts, Filter.pieces]
      rfl
  | .not children => by
      rw [Filter.normal, Filter.pieces, Filter.pieces, Filter.allEmpty, Filter.writtenParts,
        Junction.groupEmpty, Filter.normalsEmpty, Junction.groupPieces, Filter.normalParts]
      cases empty : Filter.allEmpty children with
      | true => rfl
      | false => exact congrArg _ (Piece.groupedOne ..)
  | .compare .. => rfl
  | .null .. => rfl
  | .among .. => rfl
  | .like .. => rfl
  | .fragment .. => rfl
termination_by structural filter => filter

theorem Filter.normalParts : ∀ children : List Filter,
    Filter.writtenParts (Filter.normals children) = Filter.writtenParts children
  | [] => rfl
  | child :: rest => by
      rw [Filter.normals, Filter.writtenParts]
      cases empty : child.isEmpty with
      | true => simp [Filter.normalParts rest]
      | false => simp [Filter.writtenParts, Filter.normalEmpty, empty, Filter.normalPieces child,
          Filter.normalParts rest]
termination_by structural children => children

end

theorem Filter.normalsNonempty {children : List Filter} (written : allEmpty children = false) :
    normals children ≠ [] := by
  intro none
  have empty := normalsEmpty children
  rw [none, written] at empty
  cases empty

mutual

theorem Filter.normalNormal : ∀ filter : Filter, filter.isEmpty = false →
    filter.normal.isNormal = true
  | .and children, written =>
      Junction.and.groupNormal (Filter.normalsNonempty written) (Filter.normalsNormal children)
  | .or children, written =>
      Junction.or.groupNormal (Filter.normalsNonempty written) (Filter.normalsNormal children)
  | .not children, written => by
      rw [Filter.normal, Filter.isNormal, Filter.allNormal,
        Junction.and.groupNormal (Filter.normalsNonempty written) (Filter.normalsNormal children)]
      rfl
  | .compare .., _ => rfl
  | .null .., _ => rfl
  | .among .., _ => rfl
  | .like .., _ => rfl
  | .fragment .., _ => rfl
termination_by structural filter => filter

theorem Filter.normalsNormal : ∀ children : List Filter,
    Filter.allNormal (Filter.normals children) = true
  | [] => rfl
  | child :: rest => by
      rw [Filter.normals]
      cases empty : child.isEmpty with
      | true => exact Filter.normalsNormal rest
      | false => simp [Filter.allNormal, Filter.normalNormal child empty,
          Filter.normalsNormal rest]
termination_by structural children => children

end

end Sqlwright
