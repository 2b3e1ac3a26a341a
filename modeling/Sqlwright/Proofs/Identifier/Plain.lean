import Sqlwright.Proofs.Identifier.Kept
import Sqlwright.Proofs.Identifier.Span

/-! Plain fields: no mark, alias, call or star is in them, so nothing but their dots means
anything. Each of them is a dotted name without a star. -/
namespace Sqlwright.Identifier

theorem afterAsNone {text : List Char} : afterAs? text = none ↔ ∀ a s rest,
    text = ' ' :: a :: s :: ' ' :: rest → ¬ ((a = 'a' ∨ a = 'A') ∧ (s = 's' ∨ s = 'S')) := by
  constructor
  · rintro absent a s rest rfl word
    simp [afterAs?, word] at absent
  · intro absent
    cases found : afterAs? text with
    | none => rfl
    | some rest =>
      obtain ⟨a, s, join, word⟩ := afterAsJoin found
      exact absurd word (absent a s rest join)

def Aliased (field : List Char) : Prop :=
  ∃ before a s rest, field = before ++ ' ' :: a :: s :: ' ' :: rest ∧
    (a = 'a' ∨ a = 'A') ∧ (s = 's' ∨ s = 'S')

theorem aliasCutNone {field : List Char} : aliasCut? field = none ↔ ¬ Aliased field := by
  rw [aliasCut?, Text.cutAtNone]
  simp only [afterAsNone]
  constructor
  · rintro absent ⟨before, a, s, rest, join, word⟩
    exact absent before _ join a s rest rfl word
  · intro absent before marked join a s rest spelled word
    exact absent ⟨before, a, s, rest, by rw [join, spelled], word⟩

instance (field : List Char) : Decidable (Aliased field) :=
  decidable_of_iff (¬ aliasCut? field = none) (by rw [aliasCutNone, Classical.not_not])

theorem afterMarkNone {bypass : Char} {field : List Char} (unmarked : field.head? ≠ some bypass) :
    Text.after? [bypass] field = none := by
  cases field with
  | nil => rfl
  | cons c rest =>
    have other : bypass ≠ c := fun same => unmarked (congrArg some same.symm)
    simp [Text.after?, other]

namespace Rules

structure Plain (rules : Rules) (field : List Char) : Prop where
  filled : field ≠ []
  unmarked : field.head? ≠ some rules.bypass
  unaliased : ¬ Aliased field
  unenclosing : ¬ Encloses field
  unstarred : field.getLast? ≠ some '*'

variable {rules : Rules} {field : List Char}

theorem plainIff : rules.Plain field ↔ field ≠ [] ∧ field.head? ≠ some rules.bypass ∧
    aliasCut? field = none ∧ parenSpan? field = none ∧ field.getLast? ≠ some '*' := by
  rw [aliasCutNone, parenSpanNone]
  constructor
  · rintro ⟨filled, unmarked, unaliased, unenclosing, unstarred⟩
    exact ⟨filled, unmarked, unaliased, unenclosing, unstarred⟩
  · rintro ⟨filled, unmarked, unaliased, unenclosing, unstarred⟩
    exact ⟨filled, unmarked, unaliased, unenclosing, unstarred⟩

instance : Decidable (rules.Plain field) := decidable_of_iff' _ plainIff

theorem Plain.form (plain : rules.Plain field) :
    Form.of rules.bypass field = .dotted (Text.segments '.' field) false := by
  obtain ⟨_, unmarked, uncut, spanless, unstarred⟩ := plainIff.mp plain
  have ends : dotStar.isSuffixOf field = false := by
    rw [Bool.eq_false_iff]
    intro starred
    obtain ⟨name, join⟩ := List.isSuffixOf_iff_suffix.mp starred
    exact unstarred (by simp [← join, dotStar])
  simp only [Form.of, afterMarkNone unmarked, uncut, Form.ofUnaliased, spanless, ends,
    Bool.false_eq_true, if_false, if_neg unstarred]

theorem Plain.escaped (plain : rules.Plain field) (closed : rules.closing ≠ []) :
    rules.escapeChars field = rules.dotted (Text.segments '.' field) false := by
  have noStar : field ≠ ['*'] := fun same => plain.unstarred (by rw [same]; rfl)
  have kept : rules.leaves field = false := by
    simp [leaves, plain.filled, noStar, closed]
  rw [escapeChars, kept, if_neg Bool.false_ne_true, plain.form]

end Rules

end Sqlwright.Identifier
