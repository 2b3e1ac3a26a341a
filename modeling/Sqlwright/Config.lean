import Sqlwright.Text.Search

/-! How statements are written: the placeholder, followed by its position where placeholders
are ordinal, the quotes around identifiers and literals with the escapes that stand for a quote
inside them, the texts of the truth values, and whether values are bound or written out. A field
that starts with the bypass mark is taken as it stands. -/
namespace Sqlwright

structure Quoting where
  opening : String := "["
  closing : String := "]"
  closingEscape : String := "]]"
  literal : String := "'"
  literalEscape : String := "''"
  deriving DecidableEq, Repr

structure Config where
  placeholder : String := "@p"
  ordinal : Bool := true
  quoting : Quoting := {}
  trueText : String := "1"
  falseText : String := "0"
  bypass : Char := '^'
  inline : Bool := false
  deriving DecidableEq, Repr

namespace Config

def inlined (config : Config) : Config := { config with inline := true }

def quoted (config : Config) (text : String) : String :=
  let quoting := config.quoting
  let body := Text.replace quoting.literal.toList quoting.literalEscape.toList text.toList
  quoting.literal ++ String.ofList body ++ quoting.literal

def boolText (config : Config) (value : Bool) : String :=
  if value then config.trueText else config.falseText

end Config

end Sqlwright
