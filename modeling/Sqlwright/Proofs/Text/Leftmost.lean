import Sqlwright.Text.Search

/-! Where a text is cut: at the leftmost mark in it. What stands behind the mark has no part in the
choice. -/
namespace Sqlwright.Text

theorem cutAtFirst {rest? : List Char → Option (List Char)} {text before rest : List Char}
    (cut : cutAt? rest? text = some (before, rest)) {earlier marked : List Char}
    (split : text = earlier ++ marked) (shorter : earlier.length < before.length) :
    rest? marked = none := by
  induction text generalizing before earlier with
  | nil =>
    obtain ⟨tail, _, same⟩ := Option.map_eq_some_iff.mp cut
    cases same
    exact absurd shorter (Nat.not_lt_zero _)
  | cons c cs ih =>
    unfold cutAt? at cut
    split at cut
    · cases Option.some.inj cut
      exact absurd shorter (Nat.not_lt_zero _)
    · rename_i absent
      obtain ⟨⟨inner, tail⟩, found, same⟩ := Option.map_eq_some_iff.mp cut
      cases same
      cases earlier with
      | nil =>
        rw [← List.nil_append marked, ← split]
        exact absent
      | cons d more =>
        exact ih found (List.cons.inj split).2 (Nat.lt_of_succ_lt_succ shorter)

theorem cutAtIff {rest? : List Char → Option (List Char)} {text before rest : List Char} :
    cutAt? rest? text = some (before, rest) ↔
      (∃ marked, text = before ++ marked ∧ rest? marked = some rest) ∧
        ∀ earlier marked, text = earlier ++ marked → (rest? marked).isSome →
          before.length ≤ earlier.length := by
  have leftmost : ∀ {before rest}, cutAt? rest? text = some (before, rest) →
      ∀ earlier marked, text = earlier ++ marked → (rest? marked).isSome →
        before.length ≤ earlier.length := by
    intro before rest cut earlier marked split found
    refine Nat.le_of_not_lt fun shorter => ?_
    rw [cutAtFirst cut split shorter] at found
    cases found
  constructor
  · exact fun cut => ⟨cutAtJoin cut, leftmost cut⟩
  · rintro ⟨⟨marked, join, found⟩, first⟩
    cases cut : cutAt? rest? text with
    | none => exact absurd (cutAtNone.mp cut before marked join) (by simp [found])
    | some own =>
      obtain ⟨other, tail⟩ := own
      obtain ⟨ownMarked, ownJoin, ownFound⟩ := cutAtJoin cut
      have same : other.length = before.length := by
        refine Nat.le_antisymm (leftmost cut before marked join (by simp [found])) ?_
        exact first other ownMarked ownJoin (by simp [ownFound])
      obtain ⟨rfl, rfl⟩ := List.append_inj (ownJoin.symm.trans join) same
      cases Option.some.inj (ownFound.symm.trans found)
      rfl

theorem afterSome {mark text : List Char} : (after? mark text).isSome ↔ mark <+: text := by
  simp [after?]

theorem cutIff {mark text before rest : List Char} :
    cut? mark text = some (before, rest) ↔ text = before ++ mark ++ rest ∧
      ∀ earlier later, text = earlier ++ mark ++ later → before.length ≤ earlier.length := by
  rw [cut?, cutAtIff]
  refine and_congr ⟨?_, ?_⟩ ⟨?_, ?_⟩
  · rintro ⟨marked, join, found⟩
    rw [join, afterJoin found, List.append_assoc]
  · intro join
    exact ⟨mark ++ rest, by rw [join, List.append_assoc], by simp [after?]⟩
  · intro first earlier later split
    exact first earlier (mark ++ later) (by rw [split, List.append_assoc]) (by simp [after?])
  · intro first earlier marked split found
    obtain ⟨later, rfl⟩ := afterSome.mp found
    exact first earlier later (by rw [split, List.append_assoc])

theorem cutBefore {mark text before rest : List Char} (cut : cut? mark text = some (before, rest))
    (marked : mark ≠ []) : ¬ mark <:+: before := by
  rintro ⟨earlier, later, inside⟩
  obtain ⟨join, first⟩ := cutIff.mp cut
  have short := first earlier (later ++ mark ++ rest) (by rw [join, ← inside]; simp)
  have long : 0 < mark.length := List.length_pos_iff.mpr marked
  rw [← inside] at short
  simp only [List.length_append] at short
  omega

theorem cutEnding {ending : Char} {before words : List Char} (fresh : ending ∉ before ++ words)
    (rest : List Char) :
    cut? (words ++ [ending]) (before ++ words ++ ending :: rest) = some (before, rest) := by
  refine cutIff.mpr ⟨by simp, fun earlier later split => ?_⟩
  refine Nat.le_of_not_lt fun shorter => ?_
  have inside : earlier ++ (words ++ [ending]) <+: before ++ words := by
    refine List.prefix_of_prefix_length_le ⟨later, split.symm⟩ (List.prefix_append _ _) ?_
    simp only [List.length_append, List.length_singleton]
    omega
  exact fresh (inside.subset (by simp))

end Sqlwright.Text
