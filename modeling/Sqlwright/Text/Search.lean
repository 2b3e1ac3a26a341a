/-! Leftmost search in texts. A replacement never looks at text it has already written,
and an empty pattern stands before every character and at the end. -/
namespace Sqlwright.Text

/-- The number counts the characters of a found pattern that are still to be passed over. -/
def replaceFound (pattern replacement : List Char) : Nat → List Char → List Char
  | _, [] => []
  | passing + 1, _ :: rest => replaceFound pattern replacement passing rest
  | 0, c :: rest =>
      if pattern.isPrefixOf (c :: rest) then
        replacement ++ replaceFound pattern replacement (pattern.length - 1) rest
      else c :: replaceFound pattern replacement 0 rest

def replace (pattern replacement text : List Char) : List Char :=
  if pattern.isEmpty then replacement ++ text.flatMap (fun c => c :: replacement)
  else replaceFound pattern replacement 0 text

theorem replaceSingle (q : Char) (replacement text : List Char) :
    replace [q] replacement text = text.flatMap (fun c => if c = q then replacement else [c]) := by
  have found : replaceFound [q] replacement 0 text =
      text.flatMap (fun c => if c = q then replacement else [c]) := by
    induction text with
    | nil => rfl
    | cons c rest ih =>
      by_cases same : c = q
      · simp [replaceFound, same, ih]
      · simp [replaceFound, same, Ne.symm same, ih]
  simpa [replace] using found

def after? (mark text : List Char) : Option (List Char) :=
  if mark.isPrefixOf text then some (text.drop mark.length) else none

theorem afterJoin {mark text rest : List Char} (found : after? mark text = some rest) :
    text = mark ++ rest := by
  unfold after? at found
  split at found <;> try contradiction
  rename_i lead
  obtain ⟨tail, rfl⟩ := List.isPrefixOf_iff_prefix.mp lead
  cases Option.some.inj found
  simp

/-- The text before and after the leftmost mark, where `rest?` recognises a mark at the
head of a text and returns what follows it. -/
def cutAt? (rest? : List Char → Option (List Char)) : List Char → Option (List Char × List Char)
  | [] => (rest? []).map fun rest => ([], rest)
  | c :: cs =>
      match rest? (c :: cs) with
      | some rest => some ([], rest)
      | none => (cutAt? rest? cs).map fun (before, rest) => (c :: before, rest)

theorem cutAtJoin {rest? : List Char → Option (List Char)} {text before rest : List Char}
    (cut : cutAt? rest? text = some (before, rest)) :
    ∃ marked, text = before ++ marked ∧ rest? marked = some rest := by
  induction text generalizing before with
  | nil =>
    obtain ⟨tail, found, same⟩ := Option.map_eq_some_iff.mp cut
    cases same
    exact ⟨[], rfl, found⟩
  | cons c cs ih =>
    unfold cutAt? at cut
    split at cut
    · cases Option.some.inj cut
      exact ⟨c :: cs, rfl, by assumption⟩
    · obtain ⟨⟨l, r⟩, inner, same⟩ := Option.map_eq_some_iff.mp cut
      cases same
      obtain ⟨marked, join, found⟩ := ih inner
      exact ⟨marked, by simp [join], found⟩

theorem cutAtNone {rest? : List Char → Option (List Char)} {text : List Char} :
    cutAt? rest? text = none ↔ ∀ before marked, text = before ++ marked → rest? marked = none := by
  induction text with
  | nil => simp [cutAt?]
  | cons c cs ih =>
    unfold cutAt?
    split
    · rename_i rest here
      refine iff_of_false (by simp) fun none => ?_
      exact absurd (none [] _ rfl) (by simp [here])
    · rename_i absent
      rw [Option.map_eq_none_iff, ih]
      constructor
      · rintro later (_ | ⟨d, before⟩) marked join
        · rw [← List.nil_append marked, ← join]
          exact absent
        · exact later before marked (List.cons.inj join).2
      · intro none before marked join
        exact none (c :: before) marked (congrArg (c :: ·) join)

def cut? (mark text : List Char) : Option (List Char × List Char) :=
  cutAt? (after? mark) text

theorem cutJoin {mark text before rest : List Char} (cut : cut? mark text = some (before, rest)) :
    text = before ++ mark ++ rest := by
  obtain ⟨marked, join, found⟩ := cutAtJoin cut
  simp [join, afterJoin found]

def segments (separator : Char) : List Char → List (List Char)
  | [] => [[]]
  | c :: rest =>
      if c = separator then [] :: segments separator rest
      else
        match segments separator rest with
        | [] => [[c]]
        | head :: tail => (c :: head) :: tail

theorem segmentsNonempty (separator : Char) (text : List Char) : segments separator text ≠ [] := by
  cases text with
  | nil => simp [segments]
  | cons c rest =>
    unfold segments
    split
    · simp
    · split <;> simp

theorem segmentsSplitOn (separator : Char) (text : List Char) :
    segments separator text = text.splitOn separator := by
  induction text with
  | nil => rfl
  | cons c rest ih =>
    rw [segments, ih, List.splitOn_cons_eq_if_modifyHead]
    by_cases same : c = separator
    · simp [same]
    · cases parts : rest.splitOn separator with
      | nil => exact absurd parts (List.splitOn_ne_nil separator rest)
      | cons head tail => simp [same]

end Sqlwright.Text
