import Sqlwright.Identifier.Escape

/-! Escaping moves the characters that mean something to it and no others: a character that is
neither quote nor mark, dot, star or part of an alias word stands in the escaped field exactly if
it stands in the field. -/
namespace Sqlwright

namespace Text

theorem memReplaceFound {pattern replacement : List Char} {c : Char} (filled : pattern ≠ [])
    (unread : c ∉ pattern) (unwritten : c ∉ replacement) (passing : Nat) (text : List Char) :
    c ∈ replaceFound pattern replacement passing text ↔ c ∈ text.drop passing := by
  induction text generalizing passing with
  | nil => simp [replaceFound]
  | cons d rest ih =>
    cases passing with
    | succ passing => simpa [replaceFound] using ih passing
    | zero =>
      unfold replaceFound
      split
      · rename_i found
        obtain ⟨tail, join⟩ := List.isPrefixOf_iff_prefix.mp found
        obtain ⟨p, ps, rfl⟩ := List.exists_cons_of_ne_nil filled
        have later : rest.drop ((p :: ps).length - 1) = tail := by
          have same : rest = ps ++ tail := (List.cons.inj join).2.symm
          simp [same]
        rw [List.mem_append, ih, later, List.drop_zero, ← join, List.mem_append]
        simp only [unread, unwritten, false_or]
      · rw [List.mem_cons, ih, List.drop_zero, List.drop_zero, List.mem_cons]

theorem memReplace {pattern replacement : List Char} {c : Char} (unread : c ∉ pattern)
    (unwritten : c ∉ replacement) (text : List Char) :
    c ∈ replace pattern replacement text ↔ c ∈ text := by
  unfold replace
  split
  · simp only [List.mem_append, List.mem_flatMap, List.mem_cons, unwritten, or_false, false_or]
    exact ⟨fun ⟨d, member, same⟩ => same ▸ member, fun member => ⟨c, member, rfl⟩⟩
  · rename_i nonempty
    have filled : pattern ≠ [] := by simpa using nonempty
    rw [memReplaceFound filled unread unwritten 0 text, List.drop_zero]

theorem memSegments {separator c : Char} (other : c ≠ separator) (text : List Char) :
    (∃ part ∈ segments separator text, c ∈ part) ↔ c ∈ text := by
  induction text with
  | nil => simp [segments]
  | cons d rest ih =>
    unfold segments
    split
    · rename_i same
      have different : c ≠ d := fun here => other (here.trans same)
      simp [ih, different]
    · split
      · rename_i none
        exact absurd none (segmentsNonempty separator rest)
      · rename_i head tail parts
        rw [parts] at ih
        simp only [List.mem_cons, exists_eq_or_imp] at ih ⊢
        rw [← ih, or_assoc]

end Text

namespace Identifier

theorem afterAsJoin {text rest : List Char} (found : afterAs? text = some rest) :
    ∃ a s, text = ' ' :: a :: s :: ' ' :: rest ∧ (a = 'a' ∨ a = 'A') ∧ (s = 's' ∨ s = 'S') := by
  unfold afterAs? at found
  split at found <;> try contradiction
  rename_i a s tail
  split at found <;> try contradiction
  rename_i word
  cases Option.some.inj found
  exact ⟨a, s, rfl, word⟩

theorem spanJoin {text : List Char} {opens closes : Nat}
    (found : parenSpan? text = some (opens, closes)) :
    text.take (opens + 1) ++ (text.take closes).drop (opens + 1) ++ text.drop closes = text := by
  have order := (parenSpanBound found).1
  have inside : text.take (opens + 1) = (text.take closes).take (opens + 1) := by
    rw [List.take_take, Nat.min_eq_left (by omega)]
  rw [inside, List.take_append_drop, List.take_append_drop]

def Form.parts : Form → List (List Char)
  | .verbatim text => [text]
  | .aliased source label => [source, label]
  | .call head inner tail => [head, inner, tail]
  | .dotted segments _ => segments

/-- A character that the rules neither look for nor write. -/
structure Rules.Inert (rules : Rules) (c : Char) : Prop where
  opening : c ∉ rules.opening
  closing : c ∉ rules.closing
  closingEscape : c ∉ rules.closingEscape
  bypass : c ≠ rules.bypass
  word : c ∉ [' ', 'a', 's', 'A', 'S']
  dotStar : c ∉ Identifier.dotStar

namespace Rules

theorem Inert.asWord {rules : Rules} {c : Char} (inert : rules.Inert c) : c ∉ Rules.asWord := by
  have word := inert.word
  simp only [Rules.asWord, List.mem_cons, List.not_mem_nil, or_false, not_or] at word ⊢
  exact ⟨word.1, word.2.2.2.1, word.2.2.2.2, word.1⟩

theorem memUnaliased {rules : Rules} {c : Char} (inert : rules.Inert c) (field : List Char) :
    (∃ part ∈ (Form.ofUnaliased field).parts, c ∈ part) ↔ c ∈ field := by
  have dot : c ≠ '.' := fun same => inert.dotStar (same ▸ List.mem_cons_self)
  unfold Form.ofUnaliased
  split
  · rename_i opens closes span
    have join := congrArg (c ∈ ·) (spanJoin span)
    simpa [Form.parts, or_assoc] using join
  · split
    · rename_i starred
      obtain ⟨name, join⟩ := List.isSuffixOf_iff_suffix.mp starred
      have front : field.take (field.length - 2) = name := by
        rw [← join]
        simp [Identifier.dotStar]
      rw [Form.parts, Text.memSegments dot, front, ← join, List.mem_append]
      simp only [inert.dotStar, or_false]
    · split
      · simp [Form.parts]
      · exact Text.memSegments dot field

theorem memParts {rules : Rules} {c : Char} (inert : rules.Inert c) (field : List Char) :
    (∃ part ∈ (Form.of rules.bypass field).parts, c ∈ part) ↔ c ∈ field := by
  unfold Form.of
  split
  · rename_i raw bypassed
    have join := Text.afterJoin bypassed
    simp [Form.parts, join, inert.bypass]
  · split
    · rename_i source label cut
      obtain ⟨marked, join, found⟩ := Text.cutAtJoin cut
      obtain ⟨a, s, spelled, first, second⟩ := afterAsJoin found
      have word := inert.word
      simp only [List.mem_cons, List.not_mem_nil, or_false, not_or] at word
      have other : c ≠ a ∧ c ≠ s := by
        rcases first with rfl | rfl <;> rcases second with rfl | rfl <;> simp [word]
      simp [Form.parts, join, spelled, word, other]
    · exact memUnaliased inert field

theorem memSegment {rules : Rules} {c : Char} (inert : rules.Inert c) (text : List Char) :
    c ∈ rules.segment text ↔ c ∈ text := by
  unfold segment
  simp only [List.mem_append, inert.opening, inert.closing, false_or, or_false]
  split
  · rfl
  · exact Text.memReplace inert.closing inert.closingEscape text

theorem memJoined {rules : Rules} {c : Char} (inert : rules.Inert c)
    (segments : List (List Char)) :
    c ∈ ['.'].intercalate (segments.map rules.segment) ↔ ∃ part ∈ segments, c ∈ part := by
  have dot : c ≠ '.' := fun same => inert.dotStar (same ▸ List.mem_cons_self)
  induction segments with
  | nil => simp
  | cons first rest ih =>
    cases rest with
    | nil => simp [memSegment inert]
    | cons next later =>
      rw [List.map_cons, List.map_cons, List.intercalate_cons_cons, ← List.map_cons]
      simp only [List.mem_append, memSegment inert, ih, List.mem_cons, dot,
        List.not_mem_nil, or_false, exists_eq_or_imp]

theorem memDotted {rules : Rules} {c : Char} (inert : rules.Inert c)
    (segments : List (List Char)) (star : Bool) :
    c ∈ rules.dotted segments star ↔ ∃ part ∈ segments, c ∈ part := by
  have tail : c ∉ if star then Identifier.dotStar else [] := by
    split
    · exact inert.dotStar
    · exact List.not_mem_nil
  rw [dotted, List.mem_append, memJoined inert]
  simp only [tail, or_false]

theorem memEscapeChars {rules : Rules} {c : Char} (inert : rules.Inert c) (field : List Char) :
    c ∈ rules.escapeChars field ↔ c ∈ field := by
  fun_induction escapeChars rules field with
  | case1 field left => rfl
  | case2 field kept text form =>
    have parts := memParts inert field
    simpa [form, Form.parts] using parts
  | case3 field kept source label form inSource inLabel =>
    have parts := memParts inert field
    simpa [form, Form.parts, inSource, inLabel, inert.asWord] using parts
  | case4 field kept head inner tail form inInner =>
    have parts := memParts inert field
    simpa [form, Form.parts, inInner, or_assoc] using parts
  | case5 field kept segments star form =>
    have parts := memParts inert field
    rw [memDotted inert]
    simpa [form, Form.parts] using parts

theorem memEscape {rules : Rules} {c : Char} (inert : rules.Inert c) (field : String) :
    c ∈ (rules.escape field).toList ↔ c ∈ field.toList := by
  rw [escape, String.toList_ofList]
  exact memEscapeChars inert field.toList

theorem quoteInert : (ofConfig {}).Inert '\'' := by
  constructor <;> decide

end Rules

end Identifier

end Sqlwright
