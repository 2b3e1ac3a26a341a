import Sqlwright.Identifier.Span
import Sqlwright.Text.Search

/-! The forms a field can have: a text to be taken as it stands, two fields joined by an alias,
a call around an inner field, or the dotted segments of a name, with a star after the last dot or
not. The first that fits is taken. The parentheses of a call belong to its head and tail. -/
namespace Sqlwright.Identifier

def afterAs? : List Char → Option (List Char)
  | ' ' :: a :: s :: ' ' :: rest =>
      if (a = 'a' ∨ a = 'A') ∧ (s = 's' ∨ s = 'S') then some rest else none
  | _ => none

theorem afterAsShorter {text rest : List Char} (found : afterAs? text = some rest) :
    text.length = rest.length + 4 := by
  unfold afterAs? at found
  split at found <;> try contradiction
  split at found <;> try contradiction
  cases Option.some.inj found
  simp

def aliasCut? (field : List Char) : Option (List Char × List Char) := Text.cutAt? afterAs? field

theorem aliasCutShorter {field source label : List Char}
    (cut : aliasCut? field = some (source, label)) :
    field.length = source.length + label.length + 4 := by
  obtain ⟨marked, join, found⟩ := Text.cutAtJoin cut
  have := afterAsShorter found
  simp only [join, List.length_append]
  omega

inductive Form where
  | verbatim (text : List Char)
  | aliased (source label : List Char)
  | call (head inner tail : List Char)
  | dotted (segments : List (List Char)) (star : Bool)
  deriving DecidableEq, Repr

def dotStar : List Char := ['.', '*']

def Form.ofUnaliased (field : List Char) : Form :=
  match parenSpan? field with
  | some (opens, closes) =>
      .call (field.take (opens + 1)) ((field.take closes).drop (opens + 1)) (field.drop closes)
  | none =>
      if dotStar.isSuffixOf field then .dotted (Text.segments '.' (field.take (field.length - 2))) true
      else if field.getLast? = some '*' then .verbatim field
      else .dotted (Text.segments '.' field) false

def Form.of (bypass : Char) (field : List Char) : Form :=
  match Text.after? [bypass] field with
  | some raw => .verbatim raw
  | none =>
      match aliasCut? field with
      | some (source, label) => .aliased source label
      | none => .ofUnaliased field

theorem Form.aliasedCut {bypass : Char} {field source label : List Char}
    (form : Form.of bypass field = .aliased source label) :
    aliasCut? field = some (source, label) := by
  unfold Form.of at form
  split at form <;> try contradiction
  split at form
  · cases form
    assumption
  · unfold Form.ofUnaliased at form
    split at form <;> try contradiction
    split at form <;> try contradiction
    split at form <;> contradiction

theorem Form.callSpan {bypass : Char} {field head inner tail : List Char}
    (form : Form.of bypass field = .call head inner tail) :
    ∃ opens closes, parenSpan? field = some (opens, closes) ∧ head = field.take (opens + 1) ∧
      inner = (field.take closes).drop (opens + 1) ∧ tail = field.drop closes := by
  unfold Form.of at form
  split at form <;> try contradiction
  split at form <;> try contradiction
  unfold Form.ofUnaliased at form
  split at form
  · cases form
    exact ⟨_, _, by assumption, rfl, rfl, rfl⟩
  · split at form <;> try contradiction
    split at form <;> contradiction

theorem Form.aliasedShorter {bypass : Char} {field source label : List Char}
    (form : Form.of bypass field = .aliased source label) :
    source.length < field.length ∧ label.length < field.length := by
  have := aliasCutShorter (Form.aliasedCut form)
  omega

theorem Form.callShorter {bypass : Char} {field head inner tail : List Char}
    (form : Form.of bypass field = .call head inner tail) : inner.length < field.length := by
  obtain ⟨opens, closes, span, _, same, _⟩ := Form.callSpan form
  have := parenSpanBound span
  simp only [same, List.length_drop, List.length_take]
  omega

end Sqlwright.Identifier
