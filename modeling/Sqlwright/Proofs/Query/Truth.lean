import Mathlib.Order.BoundedOrder.Lattice
import Sqlwright.Proofs.Query.Word

/-! The truth of a filter, from the truth of its leaves. Truth values are those of any bounded
lattice, so there may be an unknown between false and true, and nothing is asked of a negation. -/
namespace Sqlwright

structure Truth (α : Type) where
  negate : α → α
  leaf : Leaf → α

variable {α : Type} [Lattice α] [BoundedOrder α]

namespace Junction

def value : Junction → List α → α
  | .and, values => values.foldr (· ⊓ ·) ⊤
  | .or, values => values.foldr (· ⊔ ·) ⊥

theorem valueOne (junction : Junction) (value : α) : junction.value [value] = value := by
  cases junction <;> simp [Junction.value]

def combine : Junction → α → α → α
  | .and => (· ⊓ ·)
  | .or => (· ⊔ ·)

theorem valueAppend (junction : Junction) (first second : List α) :
    junction.value (first ++ second) =
      junction.combine (junction.value first) (junction.value second) := by
  cases junction with
  | and =>
    induction first with
    | nil => exact (top_inf_eq _).symm
    | cons value rest ih => exact (congrArg (value ⊓ ·) ih).trans (inf_assoc ..).symm
  | or =>
    induction first with
    | nil => exact (bot_sup_eq _).symm
    | cons value rest ih => exact (congrArg (value ⊔ ·) ih).trans (sup_assoc ..).symm

end Junction

mutual

def Filter.value (truth : Truth α) : Filter → α
  | .and children => Junction.and.value (Filter.values truth children)
  | .or children => Junction.or.value (Filter.values truth children)
  | .not children => truth.negate (Junction.and.value (Filter.values truth children))
  | .compare field comparison operand => truth.leaf ⟨.compare field comparison operand, rfl⟩
  | .null field negated => truth.leaf ⟨.null field negated, rfl⟩
  | .among field operands negated => truth.leaf ⟨.among field operands negated, rfl⟩
  | .like field pattern negated => truth.leaf ⟨.like field pattern negated, rfl⟩
  | .fragment sql values => truth.leaf ⟨.fragment sql values, rfl⟩
termination_by structural filter => filter

def Filter.values (truth : Truth α) : List Filter → List α
  | [] => []
  | child :: rest => child.value truth :: Filter.values truth rest
termination_by structural children => children

end

namespace Filter

theorem valuesAppend (truth : Truth α) (first second : List Filter) :
    values truth (first ++ second) = values truth first ++ values truth second := by
  induction first with
  | nil => rfl
  | cons child rest ih => rw [List.cons_append, values, ih, values, List.cons_append]

theorem groupValue (truth : Truth α) (junction : Junction) (children : List Filter) :
    (junction.group children).value truth = junction.value (values truth children) := by
  unfold Junction.group
  split
  · exact (junction.valueOne _).symm
  · cases junction <;> rfl

end Filter

end Sqlwright
