import Sqlwright.Proofs.Query.Fragment
import Sqlwright.Proofs.Statement.Text

/-! Filters added to each other. What comes of it means the AND, or the OR, of those that have
something to write, and binds their values in order; the others change nothing. -/
namespace Sqlwright

variable {α : Type} [Lattice α] [BoundedOrder α]

mutual

/-- The truth of a filter in which the children with nothing to write are skipped. -/
def Filter.meaning (truth : Truth α) : Filter → α
  | .and children => Junction.and.value (Filter.meanings truth children)
  | .or children => Junction.or.value (Filter.meanings truth children)
  | .not children => truth.negate (Junction.and.value (Filter.meanings truth children))
  | .compare field comparison operand => truth.leaf ⟨.compare field comparison operand, rfl⟩
  | .null field negated => truth.leaf ⟨.null field negated, rfl⟩
  | .among field operands negated => truth.leaf ⟨.among field operands negated, rfl⟩
  | .like field pattern negated => truth.leaf ⟨.like field pattern negated, rfl⟩
  | .fragment sql values => truth.leaf ⟨.fragment sql values, rfl⟩
termination_by structural filter => filter

def Filter.meanings (truth : Truth α) : List Filter → List α
  | [] => []
  | child :: rest =>
      if child.isEmpty then Filter.meanings truth rest
      else child.meaning truth :: Filter.meanings truth rest
termination_by structural children => children

end

mutual

theorem Filter.meaningNormal (truth : Truth α) : ∀ filter : Filter,
    filter.normal.value truth = filter.meaning truth
  | .and children => by
      rw [Filter.normal, Filter.groupValue, Filter.meaningsNormal truth children]
      rfl
  | .or children => by
      rw [Filter.normal, Filter.groupValue, Filter.meaningsNormal truth children]
      rfl
  | .not children => by
      have inner : (Junction.and.group (Filter.normals children)).value truth =
          Junction.and.value (Filter.meanings truth children) := by
        rw [Filter.groupValue, Filter.meaningsNormal truth children]
      rw [Filter.normal]
      exact congrArg truth.negate ((Junction.and.valueOne _).trans inner)
  | .compare .. => rfl
  | .null .. => rfl
  | .among .. => rfl
  | .like .. => rfl
  | .fragment .. => rfl
termination_by structural filter => filter

theorem Filter.meaningsNormal (truth : Truth α) : ∀ children : List Filter,
    Filter.values truth (Filter.normals children) = Filter.meanings truth children
  | [] => rfl
  | child :: rest => by
      rw [Filter.normals, Filter.meanings]
      cases child.isEmpty with
      | true => exact Filter.meaningsNormal truth rest
      | false =>
        exact congr (congrArg List.cons (Filter.meaningNormal truth child))
          (Filter.meaningsNormal truth rest)
termination_by structural children => children

end

namespace Filter

def written (filters : List Filter) : List Filter := filters.filter fun filter => !filter.isEmpty

def arguments (config : Config) (filter : Filter) : List Value :=
  ((Draft.start .empty).writeAll config filter.pieces).statement.arguments

theorem argumentsBound (config : Config) (filter : Filter) :
    filter.arguments config = Piece.allBound config filter.pieces :=
  Draft.writeAllArguments config (.start .empty) filter.pieces

theorem meaningsWritten (truth : Truth α) (filters : List Filter) :
    meanings truth filters = (written filters).map (meaning truth) := by
  induction filters with
  | nil => rfl
  | cons filter rest ih =>
    rw [meanings, written, List.filter_cons]
    cases filter.isEmpty with
    | true => exact ih
    | false => exact congrArg (filter.meaning truth :: ·) ih

theorem meaningsAppend (truth : Truth α) (first second : List Filter) :
    meanings truth (first ++ second) = meanings truth first ++ meanings truth second := by
  simp only [meaningsWritten, written, List.filter_append, List.map_append]

theorem meaningsEmpty (truth : Truth α) {filters : List Filter} (empty : allEmpty filters = true) :
    meanings truth filters = [] := by
  induction filters with
  | nil => rfl
  | cons filter rest ih =>
    simp only [allEmpty, Bool.and_eq_true] at empty
    rw [meanings, if_pos empty.1, ih empty.2]

theorem allEmptyAppend (first second : List Filter) :
    allEmpty (first ++ second) = (allEmpty first && allEmpty second) := by
  induction first with
  | nil => rfl
  | cons filter rest ih => rw [List.cons_append, allEmpty, allEmpty, ih, Bool.and_assoc]

theorem sitesOfWritten (children : List Filter) :
    (writtenParts children).flatMap Piece.allSites =
      children.flatMap fun child => Piece.allSites child.pieces := by
  induction children with
  | nil => rfl
  | cons child rest ih =>
    rw [writtenParts, List.flatMap_cons, ← ih]
    cases empty : child.isEmpty with
    | true =>
      rw [emptyPieces empty]
      rfl
    | false => exact List.flatMap_cons

def alternatives : Filter → List Filter
  | .or children => children
  | filter => [filter]

theorem orWithMembers {filter : Filter} (written : filter.isEmpty = false) (other : Filter) :
    filter.orWith other = .or (filter.alternatives ++ [other]) := by
  unfold orWith
  rw [if_neg (by simp [written])]
  cases filter <;> rfl

end Filter

namespace Junction

def extend : Junction → Filter → Filter → Filter
  | .and => Filter.andWith
  | .or => Filter.orWith

def members : Junction → Filter → List Filter
  | .and => Filter.members
  | .or => Filter.alternatives

theorem membersCases (junction : Junction) (filter : Filter) :
    junction.members filter = [filter] ∨ junction.filter (junction.members filter) = filter := by
  cases junction <;> cases filter <;> first | exact .inl rfl | exact .inr rfl

theorem extendCases (junction : Junction) (filter other : Filter) :
    (other.isEmpty = true ∧ junction.extend filter other = filter) ∨
    (filter.isEmpty = true ∧ junction.extend filter other = other) ∨
    junction.extend filter other = junction.filter (junction.members filter ++ [other]) := by
  cases junction with
  | and =>
    cases empty : other.isEmpty with
    | true => exact .inl ⟨rfl, if_pos empty⟩
    | false => exact .inr (.inr (filter.andWithMembers empty))
  | or =>
    cases empty : filter.isEmpty with
    | true => exact .inr (.inl ⟨rfl, if_pos empty⟩)
    | false => exact .inr (.inr (Filter.orWithMembers empty other))

theorem membersEmpty (junction : Junction) (filter : Filter) :
    Filter.allEmpty (junction.members filter) = filter.isEmpty := by
  rcases junction.membersCases filter with alone | same
  · rw [alone]
    exact Bool.and_true _
  · rw [← filterEmpty, same]

theorem extendEmpty (junction : Junction) (filter other : Filter) :
    (junction.extend filter other).isEmpty = (filter.isEmpty && other.isEmpty) := by
  rcases junction.extendCases filter other with ⟨empty, same⟩ | ⟨empty, same⟩ | same
  · rw [same, empty, Bool.and_true]
  · rw [same, empty, Bool.true_and]
  · rw [same, filterEmpty, Filter.allEmptyAppend, membersEmpty]
    exact congrArg _ (Bool.and_true _)

theorem filterValue (truth : Truth α) (junction : Junction) (children : List Filter) :
    junction.value (Filter.meanings truth [junction.filter children]) =
      junction.value (Filter.meanings truth children) := by
  have meaning : (junction.filter children).meaning truth =
      junction.value (Filter.meanings truth children) := by
    cases junction <;> rfl
  rw [Filter.meanings]
  split
  · rename_i empty
    rw [filterEmpty] at empty
    rw [Filter.meaningsEmpty truth empty]
    rfl
  · rw [Filter.meanings, valueOne, meaning]

theorem membersValue (truth : Truth α) (junction : Junction) (filter : Filter) :
    junction.value (Filter.meanings truth (junction.members filter)) =
      junction.value (Filter.meanings truth [filter]) := by
  rcases junction.membersCases filter with alone | same
  · rw [alone]
  · rw [← filterValue, same]

theorem extendValue (truth : Truth α) (junction : Junction) (filter other : Filter) :
    junction.value (Filter.meanings truth [junction.extend filter other]) =
      junction.value (Filter.meanings truth [filter, other]) := by
  rcases junction.extendCases filter other with ⟨empty, same⟩ | ⟨empty, same⟩ | same
  · simp [same, Filter.meanings, empty]
  · simp [same, Filter.meanings, empty]
  · rw [same, filterValue, Filter.meaningsAppend, valueAppend, membersValue, ← valueAppend,
      ← Filter.meaningsAppend]
    rfl

theorem filterSites (junction : Junction) (children : List Filter) :
    Piece.allSites (junction.filter children).pieces =
      children.flatMap fun child => Piece.allSites child.pieces := by
  rw [filterPieces, Piece.sitesGrouped, Filter.sitesOfWritten]

theorem extendSites (junction : Junction) (filter other : Filter) :
    Piece.allSites (junction.extend filter other).pieces =
      Piece.allSites filter.pieces ++ Piece.allSites other.pieces := by
  have nothing : ∀ {empty : Filter}, empty.isEmpty = true → Piece.allSites empty.pieces = [] :=
    fun empty => by rw [Filter.emptyPieces empty]; rfl
  rcases junction.extendCases filter other with ⟨empty, same⟩ | ⟨empty, same⟩ | same
  · rw [same, nothing empty, List.append_nil]
  · rw [same, nothing empty, List.nil_append]
  · have members : (junction.members filter).flatMap (fun child => Piece.allSites child.pieces) =
        Piece.allSites filter.pieces := by
      rcases junction.membersCases filter with alone | whole
      · rw [alone, List.flatMap_singleton]
      · rw [← filterSites, whole]
    rw [same, filterSites, List.flatMap_append, members, List.flatMap_singleton]

structure Gathers (junction : Junction) (given : List Filter) (filter : Filter) : Prop where
  empty : filter.isEmpty = Filter.allEmpty given
  value : ∀ {α : Type} [Lattice α] [BoundedOrder α] (truth : Truth α),
    junction.value (Filter.meanings truth [filter]) = junction.value (Filter.meanings truth given)
  sites : Piece.allSites filter.pieces = given.flatMap fun one => Piece.allSites one.pieces

theorem gathersOne (junction : Junction) (filter : Filter) : junction.Gathers [filter] filter :=
  ⟨(Bool.and_true _).symm, fun _ => rfl, (List.flatMap_singleton ..).symm⟩

theorem gathersNone (junction : Junction) : junction.Gathers [] (junction.filter []) :=
  ⟨junction.filterEmpty [], fun truth => junction.filterValue truth [], junction.filterSites []⟩

theorem Gathers.extend {junction : Junction} {given : List Filter} {filter : Filter}
    (gathers : junction.Gathers given filter) (other : Filter) :
    junction.Gathers (given ++ [other]) (junction.extend filter other) := by
  refine ⟨?_, fun truth => ?_, ?_⟩
  · rw [extendEmpty, gathers.empty, Filter.allEmptyAppend]
    exact congrArg _ (Bool.and_true _).symm
  · rw [extendValue, ← List.singleton_append, Filter.meaningsAppend, valueAppend, gathers.value,
      ← valueAppend, ← Filter.meaningsAppend]
  · rw [extendSites, gathers.sites, List.flatMap_append, List.flatMap_singleton]

theorem Gathers.extendAll {junction : Junction} {given : List Filter} {filter : Filter}
    (gathers : junction.Gathers given filter) (others : List Filter) :
    junction.Gathers (given ++ others) (others.foldl junction.extend filter) := by
  induction others generalizing given filter with
  | nil =>
    rw [List.append_nil]
    exact gathers
  | cons other rest ih =>
    rw [List.append_cons]
    exact ih (gathers.extend other)

structure Combines (junction : Junction) (given : List Filter) (filter : Filter) : Prop where
  empty : filter.isEmpty = true ↔ ∀ one ∈ given, one.isEmpty = true
  means : ∀ {α : Type} [Lattice α] [BoundedOrder α] (truth : Truth α), filter.isEmpty = false →
    filter.meaning truth = junction.value ((Filter.written given).map (Filter.meaning truth))
  reads : filter.isEmpty = false → ∃ condition, Reader.read filter.words = some condition ∧
    ∀ {α : Type} [Lattice α] [BoundedOrder α] (truth : Truth α),
      condition.value truth = filter.meaning truth
  binds : ∀ (config : Config) (draft : Draft),
    (draft.writeAll config filter.pieces).statement.arguments =
      draft.statement.arguments ++ given.flatMap (Filter.arguments config)

theorem Gathers.bound {junction : Junction} {given : List Filter} {filter : Filter}
    (gathers : junction.Gathers given filter) (config : Config) :
    Piece.allBound config filter.pieces = given.flatMap (Filter.arguments config) := by
  have each : Filter.arguments config = fun one => Piece.allBound config one.pieces :=
    funext (Filter.argumentsBound config)
  simp only [each, Piece.boundOfSites, gathers.sites, List.flatMap_assoc]

theorem Gathers.combines {junction : Junction} {given : List Filter} {filter : Filter}
    (gathers : junction.Gathers given filter) : junction.Combines given filter := by
  refine ⟨by rw [gathers.empty, Filter.allEmptyIff], fun truth written => ?_, fun written => ?_,
    fun config draft => by rw [Draft.writeAllArguments, gathers.bound]⟩
  · have alone : Filter.meanings truth [filter] = [filter.meaning truth] := by
      simp [Filter.meanings, written]
    rw [← Filter.meaningsWritten, ← gathers.value, alone, valueOne]
  · exact ⟨_, (Filter.reads written).read, fun truth => filter.meaningNormal truth⟩

end Junction

end Sqlwright
