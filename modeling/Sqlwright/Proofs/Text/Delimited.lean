import Sqlwright.Text.Search

/-! Texts read after their opening mark. A mark that is written twice stands for one mark in the
text, and the first that is not ends it, so what can be read is what has every mark doubled. -/
namespace Sqlwright.Text

def delimited? (mark : Char) : List Char → Option (List Char × List Char)
  | [] => none
  | c :: rest =>
      if c = mark then
        match rest with
        | [] => some ([], [])
        | next :: later =>
            if next = mark then
              (delimited? mark later).map fun (body, after) => (mark :: body, after)
            else some ([], rest)
      else (delimited? mark rest).map fun (body, after) => (c :: body, after)

def doubled (mark : Char) (text : List Char) : List Char :=
  text.flatMap fun c => if c = mark then [mark, mark] else [c]

theorem doubledMark (mark : Char) (text : List Char) :
    doubled mark (mark :: text) = mark :: mark :: doubled mark text := by
  simp [doubled]

theorem doubledOther {mark c : Char} (other : c ≠ mark) (text : List Char) :
    doubled mark (c :: text) = c :: doubled mark text := by
  simp [doubled, other]

theorem doubledLength (mark : Char) (text : List Char) :
    (doubled mark text).length = text.length + text.count mark := by
  induction text with
  | nil => rfl
  | cons c rest ih =>
    by_cases same : c = mark
    · subst same
      rw [doubledMark, List.count_cons_self]
      simp only [List.length_cons, ih]
      omega
    · rw [doubledOther same, List.count_cons_of_ne same]
      simp only [List.length_cons, ih]
      omega

theorem doubledSame {mark : Char} {text : List Char} :
    doubled mark text = text ↔ mark ∉ text := by
  constructor
  · intro same
    have length := doubledLength mark text
    rw [same] at length
    exact List.count_eq_zero.mp (by omega)
  · intro absent
    induction text with
    | nil => rfl
    | cons c rest ih =>
      have other : c ≠ mark := fun same => absent (same ▸ List.mem_cons_self)
      rw [doubledOther other, ih fun member => absent (List.mem_cons_of_mem _ member)]

theorem readDoubled (mark : Char) (body after : List Char) (ends : after.head? ≠ some mark) :
    delimited? mark (doubled mark body ++ mark :: after) = some (body, after) := by
  induction body with
  | nil =>
    cases after with
    | nil => simp [doubled, delimited?]
    | cons next later =>
      have other : next ≠ mark := fun same => ends (congrArg some same)
      simp [doubled, delimited?, other]
  | cons c rest ih =>
    by_cases same : c = mark
    · subst same
      rw [doubledMark, List.cons_append, List.cons_append, delimited?, if_pos rfl]
      simp [ih]
    · rw [doubledOther same, List.cons_append, delimited?.eq_def]
      simp [same, ih]

theorem readSource {mark : Char} {text body after : List Char}
    (read : delimited? mark text = some (body, after)) :
    text = doubled mark body ++ mark :: after ∧ after.head? ≠ some mark := by
  fun_induction delimited? mark text generalizing body after with
  | case1 => cases read
  | case2 =>
    cases read
    exact ⟨rfl, by simp⟩
  | case3 later ih =>
    obtain ⟨⟨inner, tail⟩, found, same⟩ := Option.map_eq_some_iff.mp read
    cases same
    obtain ⟨join, ends⟩ := ih found
    rw [join, doubledMark]
    exact ⟨rfl, ends⟩
  | case4 next later other =>
    cases read
    exact ⟨rfl, by simpa using other⟩
  | case5 c rest other ih =>
    obtain ⟨⟨inner, tail⟩, found, same⟩ := Option.map_eq_some_iff.mp read
    cases same
    obtain ⟨join, ends⟩ := ih found
    rw [join, doubledOther other]
    exact ⟨rfl, ends⟩

theorem readShorter {mark : Char} {text body after : List Char}
    (read : delimited? mark text = some (body, after)) : after.length < text.length := by
  rw [(readSource read).1]
  simp only [List.length_append, List.length_cons]
  omega

theorem readIff {mark : Char} {text body after : List Char} :
    delimited? mark text = some (body, after) ↔
      text = doubled mark body ++ mark :: after ∧ after.head? ≠ some mark := by
  constructor
  · exact readSource
  · rintro ⟨join, ends⟩
    rw [join]
    exact readDoubled mark body after ends

theorem readPlain {mark : Char} {body after : List Char} (ends : after.head? ≠ some mark) :
    delimited? mark (body ++ mark :: after) = some (body, after) ↔ mark ∉ body := by
  rw [readIff, ← doubledSame]
  constructor
  · rintro ⟨join, _⟩
    exact (List.append_cancel_right join).symm
  · intro same
    exact ⟨by rw [same], ends⟩

end Sqlwright.Text
