import Sqlwright.Identifier.Form

/-! The form of a field found by positions. A text is cut between two positions, which have to be
in order and inside the text, and open parentheses are counted down, which has to stop at zero;
there is no form where one of these is not so. But every field has one: whatever is found in it can
be cut there. -/
namespace Sqlwright.Identifier

def slice? (text : List Char) (start stop : Nat) : Option (List Char) :=
  if start ≤ stop ∧ stop ≤ text.length then some ((text.take stop).drop start) else none

theorem sliceInside {text : List Char} {start stop : Nat} (order : start ≤ stop)
    (inside : stop ≤ text.length) : slice? text start stop = some ((text.take stop).drop start) :=
  if_pos ⟨order, inside⟩

def countdown? : Nat → List Char → Option (Option Nat)
  | _, [] => some none
  | depth, c :: rest =>
      if c = '(' then (countdown? (depth + 1) rest).map (·.map (· + 1))
      else if c = ')' then
        match depth with
        | 0 => none
        | 1 => some (some 0)
        | depth + 2 => (countdown? (depth + 1) rest).map (·.map (· + 1))
      else (countdown? depth rest).map (·.map (· + 1))

theorem countdownClosing {depth : Nat} {text : List Char} (opened : 0 < depth) :
    countdown? depth text = some (closing? depth text) := by
  induction text generalizing depth with
  | nil => rfl
  | cons c rest ih =>
    unfold countdown? closing?
    split
    · rw [ih (Nat.succ_pos depth)]
      rfl
    · split
      · cases depth with
        | zero => cases opened
        | succ above =>
          cases above with
          | zero => rfl
          | succ below =>
            simp only [ih (Nat.succ_pos below)]
            rfl
      · rw [ih opened]
        rfl

def spanFound? (field : List Char) : Option (Option (Nat × Nat)) :=
  match field.idxOf? '(' with
  | none => some none
  | some opens =>
      (countdown? 0 (field.drop opens)).map (·.map fun closes => (opens, opens + closes))

theorem spanFound (field : List Char) : spanFound? field = some (parenSpan? field) := by
  unfold spanFound? parenSpan?
  cases first : field.idxOf? '(' with
  | none => rfl
  | some opens =>
    obtain ⟨short, parenthesis, _⟩ := List.idxOf?_eq_some_iff.mp first
    have lifted : countdown? 0 (field.drop opens) = some (closing? 0 (field.drop opens)) := by
      rw [List.drop_eq_getElem_cons short, parenthesis]
      simp only [countdown?, closing?, if_pos, countdownClosing (Nat.succ_pos 0)]
      rfl
    simp only [lifted]
    rfl

def aliasAt? : List Char → Option Nat
  | [] => none
  | c :: rest => if (afterAs? (c :: rest)).isSome then some 0 else (aliasAt? rest).map (· + 1)

theorem afterAsDrop {text rest : List Char} (found : afterAs? text = some rest) :
    text.drop 4 = rest := by
  unfold afterAs? at found
  split at found <;> try contradiction
  split at found <;> try contradiction
  exact Option.some.inj found

theorem aliasCutAt (field : List Char) :
    aliasCut? field =
      (aliasAt? field).map fun position => (field.take position, field.drop (position + 4)) := by
  induction field with
  | nil => rfl
  | cons c rest ih =>
    rw [aliasCut?, Text.cutAt?, aliasAt?]
    cases here : afterAs? (c :: rest) with
    | some label => simpa using (afterAsDrop here).symm
    | none =>
      rw [← aliasCut?, ih]
      simp only [Option.isSome_none, Bool.false_eq_true, if_false, Option.map_map]
      rfl

theorem aliasAtBound {field : List Char} {position : Nat} (found : aliasAt? field = some position) :
    position + 4 ≤ field.length := by
  have cut := aliasCutAt field
  rw [found] at cut
  have whole := aliasCutShorter cut
  simp only [List.length_take, List.length_drop] at whole
  omega

namespace Form

def found? (bypass : Char) (field : List Char) : Option Form :=
  match Text.after? [bypass] field with
  | some raw => some (.verbatim raw)
  | none =>
      match aliasAt? field with
      | some position => do
          let source ← slice? field 0 position
          let label ← slice? field (position + 4) field.length
          some (.aliased source label)
      | none => do
          match ← spanFound? field with
          | some (opens, closes) =>
              let head ← slice? field 0 (opens + 1)
              let inner ← slice? field (opens + 1) closes
              let tail ← slice? field closes field.length
              some (.call head inner tail)
          | none => some (.ofUnaliased field)

theorem foundOf (bypass : Char) (field : List Char) : found? bypass field = some (of bypass field) := by
  unfold found? of
  cases marked : Text.after? [bypass] field with
  | some raw => rfl
  | none =>
    simp only [aliasCutAt]
    cases aliased : aliasAt? field with
    | some position =>
      have bound := aliasAtBound aliased
      simp [sliceInside (Nat.zero_le position) (by omega : position ≤ field.length),
        sliceInside bound (Nat.le_refl field.length)]
    | none =>
      simp only [spanFound, ofUnaliased]
      cases span : parenSpan? field with
      | some ends =>
        obtain ⟨opens, closes⟩ := ends
        obtain ⟨order, inside⟩ := parenSpanBound span
        simp [sliceInside (Nat.zero_le (opens + 1)) (by omega : opens + 1 ≤ field.length),
          sliceInside order (by omega : closes ≤ field.length),
          sliceInside (by omega : closes ≤ field.length) (Nat.le_refl field.length)]
      | none => rfl

end Form

end Sqlwright.Identifier
