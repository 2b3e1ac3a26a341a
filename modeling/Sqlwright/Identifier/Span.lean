/-! The first parenthesis of a text and the one that closes it, as positions. -/
namespace Sqlwright.Identifier

/-- The position at which as many parentheses have been closed as opened; `depth` of them are
open at the head of the text. -/
def closing? : Nat → List Char → Option Nat
  | _, [] => none
  | depth, c :: rest =>
      if c = '(' then (closing? (depth + 1) rest).map (· + 1)
      else if c = ')' then
        if depth - 1 = 0 then some 0 else (closing? (depth - 1) rest).map (· + 1)
      else (closing? depth rest).map (· + 1)

theorem closingBound {depth : Nat} {text : List Char} {closes : Nat}
    (found : closing? depth text = some closes) : closes < text.length := by
  induction text generalizing depth closes with
  | nil => simp [closing?] at found
  | cons c rest ih =>
    have step : ∀ depth, (closing? depth rest).map (· + 1) = some closes →
        closes < (c :: rest).length := by
      intro depth later
      obtain ⟨inner, here, same⟩ := Option.map_eq_some_iff.mp later
      have := ih here
      simp only [List.length_cons]
      omega
    unfold closing? at found
    split at found
    · exact step _ found
    · split at found
      · split at found
        · cases Option.some.inj found
          simp
        · exact step _ found
      · exact step _ found

def parenSpan? (text : List Char) : Option (Nat × Nat) :=
  match text.idxOf? '(' with
  | none => none
  | some opens => (closing? 0 (text.drop opens)).map fun closes => (opens, opens + closes)

theorem parenSpanBound {text : List Char} {opens closes : Nat}
    (found : parenSpan? text = some (opens, closes)) : opens < closes ∧ closes < text.length := by
  unfold parenSpan? at found
  split at found <;> try contradiction
  rename_i first here
  obtain ⟨distance, closed, same⟩ := Option.map_eq_some_iff.mp found
  cases same
  have bound := closingBound closed
  have short : opens < text.length := by
    have := List.length_drop (i := opens) (l := text)
    omega
  have parenthesis : text[opens] = '(' := by
    obtain ⟨_, same, _⟩ := List.findIdx?_eq_some_iff_getElem.mp here
    simpa using same
  rw [List.drop_eq_getElem_cons short, parenthesis] at closed
  obtain ⟨inner, _, same⟩ := Option.map_eq_some_iff.mp (by simpa only [closing?, if_pos] using closed)
  simp only [List.length_drop] at bound
  omega

end Sqlwright.Identifier
