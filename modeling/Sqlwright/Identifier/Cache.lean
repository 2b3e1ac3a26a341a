import Sqlwright.Identifier.Escape

/-! Escaped fields that are kept for the next time. One cache serves several sets of rules;
the parts of a field are kept as well as the field itself. -/
namespace Sqlwright.Identifier

structure Entry where
  rules : Rules
  field : List Char
  text : List Char
  deriving DecidableEq, Repr

def Entry.answers (entry : Entry) (rules : Rules) (field : List Char) : Bool :=
  entry.rules == rules && entry.field == field

structure Cache where
  entries : List Entry

namespace Cache

def empty : Cache := ⟨[]⟩

def size (cache : Cache) : Nat := cache.entries.length

def isEmpty (cache : Cache) : Bool := cache.entries.isEmpty

def find? (cache : Cache) (rules : Rules) (field : List Char) : Option (List Char) :=
  (cache.entries.find? (·.answers rules field)).map (·.text)

def insert (cache : Cache) (rules : Rules) (field text : List Char) : Cache :=
  ⟨⟨rules, field, text⟩ :: cache.entries.filter (!·.answers rules field)⟩

theorem memInsert {cache : Cache} {rules : Rules} {field text : List Char} {entry : Entry} :
    entry ∈ (cache.insert rules field text).entries ↔
      entry = ⟨rules, field, text⟩ ∨
        (entry ∈ cache.entries ∧ (entry.rules ≠ rules ∨ entry.field ≠ field)) := by
  simp [insert, Entry.answers]

def escapeChars (rules : Rules) (field : List Char) (cache : Cache) : List Char × Cache :=
  if rules.leaves field then (field, cache)
  else
    match cache.find? rules field with
    | some text => (text, cache)
    | none =>
        let (text, cache) :=
          match _ : Form.of rules.bypass field with
          | .verbatim text => (text, cache)
          | .aliased source label =>
              let (left, cache) := escapeChars rules source cache
              let (right, cache) := escapeChars rules label cache
              (left ++ Rules.asWord ++ right, cache)
          | .call head inner tail =>
              let (text, cache) := escapeChars rules inner cache
              (head ++ text ++ tail, cache)
          | .dotted segments star => (rules.dotted segments star, cache)
        (text, cache.insert rules field text)
termination_by field.length
decreasing_by
  · exact (Form.aliasedShorter ‹_›).1
  · exact (Form.aliasedShorter ‹_›).2
  · exact Form.callShorter ‹_›

def escape (cache : Cache) (rules : Rules) (field : String) : String × Cache :=
  let (text, cache) := escapeChars rules field.toList cache
  (String.ofList text, cache)

end Cache

end Sqlwright.Identifier
