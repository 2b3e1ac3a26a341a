import Sqlwright.Config
import Sqlwright.Identifier.Form

/-! Fields with their identifiers quoted. A closing quote inside an identifier is replaced by
its escape; an empty closing quote has no escape. -/
namespace Sqlwright.Identifier

structure Rules where
  opening : List Char
  closing : List Char
  closingEscape : List Char
  bypass : Char
  deriving DecidableEq, Repr

namespace Rules

def ofConfig (config : Config) : Rules where
  opening := config.quoting.opening.toList
  closing := config.quoting.closing.toList
  closingEscape := config.quoting.closingEscape.toList
  bypass := config.bypass

def leaves (rules : Rules) (field : List Char) : Bool :=
  field.isEmpty || field == ['*'] || (rules.opening.isEmpty && rules.closing.isEmpty)

def segment (rules : Rules) (text : List Char) : List Char :=
  let body :=
    if rules.closing.isEmpty then text else Text.replace rules.closing rules.closingEscape text
  rules.opening ++ body ++ rules.closing

def dotted (rules : Rules) (segments : List (List Char)) (star : Bool) : List Char :=
  ['.'].intercalate (segments.map rules.segment) ++ if star then dotStar else []

def asWord : List Char := [' ', 'A', 'S', ' ']

def escapeChars (rules : Rules) (field : List Char) : List Char :=
  if rules.leaves field then field
  else
    match _ : Form.of rules.bypass field with
    | .verbatim text => text
    | .aliased source label => rules.escapeChars source ++ asWord ++ rules.escapeChars label
    | .call head inner tail => head ++ rules.escapeChars inner ++ tail
    | .dotted segments star => rules.dotted segments star
termination_by field.length
decreasing_by
  · exact (Form.aliasedShorter ‹_›).1
  · exact (Form.aliasedShorter ‹_›).2
  · exact Form.callShorter ‹_›

def escape (rules : Rules) (field : String) : String :=
  String.ofList (rules.escapeChars field.toList)

end Rules

end Sqlwright.Identifier
