import Sqlwright.Identifier.Span

/-! Matched parentheses told by counting, without a scan: a text encloses another if as many
parentheses are opened in it as closed, after the first one opened. The scan finds a span exactly
where there is such a text, and up to its end more are opened than closed wherever it is cut. -/
namespace Sqlwright.Identifier

def Counts (depth : Nat) (c : Char) (deeper : Nat) : Prop :=
  deeper + [c].count ')' = depth + [c].count '('

theorem closesOrCounts {depth : Nat} (opened : 0 < depth) (c : Char) :
    (depth = 1 ∧ c = ')') ∨ ∃ deeper, 0 < deeper ∧ Counts depth c deeper := by
  by_cases opens : c = '('
  · exact .inr ⟨depth + 1, by omega, by simp [Counts, opens]⟩
  · by_cases shuts : c = ')'
    · by_cases last : depth = 1
      · exact .inl ⟨last, shuts⟩
      · exact .inr ⟨depth - 1, by omega, by simp [Counts, shuts]; omega⟩
    · exact .inr ⟨depth, opened, by simp [Counts, opens, shuts]⟩

theorem closingCounts {depth deeper : Nat} {c : Char} (counts : Counts depth c deeper)
    (opened : 0 < deeper) (rest : List Char) :
    closing? depth (c :: rest) = (closing? deeper rest).map (· + 1) := by
  rw [closing?]
  split
  · rename_i opens
    have same : deeper = depth + 1 := by simpa [Counts, opens] using counts
    rw [same]
  · split
    · rename_i shuts
      have same : deeper + 1 = depth := by simpa [Counts, shuts] using counts
      rw [if_neg (by omega), show depth - 1 = deeper by omega]
    · rename_i opens shuts
      have same : deeper = depth := by simpa [Counts, opens, shuts] using counts
      rw [same]

/-- Wherever the text is cut, more parentheses have been opened than closed, where `depth` of them
were open before it. -/
def StaysOpen (depth : Nat) (text : List Char) : Prop :=
  ∀ taken, taken <+: text → taken.count ')' < depth + taken.count '('

theorem StaysOpen.lead {depth : Nat} {first text : List Char} (stays : StaysOpen depth text)
    (lead : first <+: text) : StaysOpen depth first :=
  fun taken within => stays taken (within.trans lead)

theorem staysOpenNil {depth : Nat} (opened : 0 < depth) : StaysOpen depth [] := by
  intro taken lead
  simpa [List.prefix_nil.mp lead] using opened

theorem staysOpenCons {depth : Nat} {c : Char} {text : List Char} :
    StaysOpen depth (c :: text) ↔
      0 < depth ∧ ∃ deeper, Counts depth c deeper ∧ StaysOpen deeper text := by
  constructor
  · intro stays
    have single := stays [c] (List.prefix_append [c] text)
    refine ⟨by simpa using stays [] List.nil_prefix, depth + [c].count '(' - [c].count ')', ?_, ?_⟩
    · rw [Counts]
      omega
    · intro taken lead
      have longer := stays (c :: taken) (List.cons_prefix_cons.mpr ⟨rfl, lead⟩)
      rw [← List.singleton_append, List.count_append, List.count_append] at longer
      omega
  · rintro ⟨opened, deeper, counts, stays⟩ (_ | ⟨d, taken⟩) lead
    · simpa using opened
    · obtain ⟨rfl, behind⟩ := List.cons_prefix_cons.mp lead
      have level := stays taken behind
      rw [Counts] at counts
      rw [← List.singleton_append, List.count_append, List.count_append]
      omega

theorem closingSome {depth : Nat} {text : List Char} {closes : Nat} (opened : 0 < depth)
    (found : closing? depth text = some closes) :
    ∃ inside after, text = inside ++ ')' :: after ∧ inside.length = closes ∧
      depth + inside.count '(' = inside.count ')' + 1 ∧ StaysOpen depth inside := by
  induction text generalizing depth closes with
  | nil => simp [closing?] at found
  | cons c rest ih =>
    rcases closesOrCounts opened c with ⟨rfl, rfl⟩ | ⟨deeper, above, counts⟩
    · cases Option.some.inj (found.symm.trans rfl)
      exact ⟨[], rest, rfl, rfl, rfl, staysOpenNil opened⟩
    · rw [closingCounts counts above] at found
      obtain ⟨_, there, rfl⟩ := Option.map_eq_some_iff.mp found
      obtain ⟨inside, after, join, length, level, stays⟩ := ih above there
      refine ⟨c :: inside, after, by rw [join]; rfl, by rw [List.length_cons, length], ?_,
        staysOpenCons.mpr ⟨opened, deeper, counts, stays⟩⟩
      rw [Counts] at counts
      rw [← List.singleton_append, List.count_append, List.count_append]
      omega

theorem closingNone {depth : Nat} {text : List Char} (opened : 0 < depth)
    (absent : closing? depth text = none) : StaysOpen depth text := by
  induction text generalizing depth with
  | nil => exact staysOpenNil opened
  | cons c rest ih =>
    rcases closesOrCounts opened c with ⟨rfl, rfl⟩ | ⟨deeper, above, counts⟩
    · cases absent
    · rw [closingCounts counts above] at absent
      exact staysOpenCons.mpr ⟨opened, deeper, counts, ih above (Option.map_eq_none_iff.mp absent)⟩

theorem parenSpanAt {before : List Char} (first : '(' ∉ before) (rest : List Char) :
    parenSpan? (before ++ '(' :: rest) =
      (closing? 1 rest).map fun closes => (before.length, before.length + (closes + 1)) := by
  have here : (before ++ '(' :: rest).idxOf? '(' = some before.length := by
    rw [List.idxOf?_eq_some_iff]
    refine ⟨by simp, by simp, ?_⟩
    intro position earlier same
    rw [List.getElem_append_left earlier] at same
    exact first (same ▸ List.getElem_mem _)
  simp only [parenSpan?, here, List.drop_left, closing?, if_pos, Option.map_map]
  rfl

structure Divides (field before inside after : List Char) : Prop where
  join : field = before ++ '(' :: (inside ++ ')' :: after)
  first : '(' ∉ before
  level : inside.count '(' = inside.count ')'
  stays : StaysOpen 1 inside

theorem spanDivides {field : List Char} {opens closes : Nat}
    (found : parenSpan? field = some (opens, closes)) :
    ∃ before inside after, Divides field before inside after ∧ opens = before.length ∧
      closes = before.length + (inside.length + 1) := by
  by_cases opened : '(' ∈ field
  · obtain ⟨before, rest, rfl, first⟩ := List.eq_append_cons_of_mem opened
    rw [parenSpanAt first] at found
    obtain ⟨_, here, same⟩ := Option.map_eq_some_iff.mp found
    obtain ⟨inside, after, rfl, rfl, level, stays⟩ := closingSome Nat.one_pos here
    obtain ⟨rfl, rfl⟩ := Prod.mk.inj same
    exact ⟨before, inside, after, ⟨rfl, first, by omega, stays⟩, rfl, rfl⟩
  · have absent : field.idxOf? '(' = none := List.idxOf?_eq_none_iff.mpr opened
    simp [parenSpan?, absent] at found

def Encloses (field : List Char) : Prop :=
  ∃ before inside after, field = before ++ '(' :: (inside ++ ')' :: after) ∧ '(' ∉ before ∧
    inside.count '(' = inside.count ')'

theorem parenSpanNone {field : List Char} : parenSpan? field = none ↔ ¬ Encloses field := by
  constructor
  · rintro absent ⟨before, inside, after, join, first, level⟩
    rw [join, parenSpanAt first, Option.map_eq_none_iff] at absent
    have stays : inside.count ')' + 1 < 1 + inside.count '(' := by
      simpa using closingNone Nat.one_pos absent (inside ++ [')']) ⟨after, by simp⟩
    omega
  · intro absent
    cases found : parenSpan? field with
    | none => rfl
    | some ends =>
      obtain ⟨before, inside, after, divides, _⟩ := spanDivides found
      exact absurd ⟨before, inside, after, divides.join, divides.first, divides.level⟩ absent

end Sqlwright.Identifier
