import Sqlwright.Calendar.Layout
import Sqlwright.Text.Quoted
import Sqlwright.Value.Literal

/-! Values as documents and diagnostics show them. Both write the calendar in one style, with
a `T` between date and time and three, six or nine decimals of a second, whichever is the first
to be exact. Diagnostics write the seconds of an offset where there are any. -/
namespace Sqlwright

def joined (opening : String) (items : List String) (closing : String) : String :=
  opening ++ String.intercalate ", " items ++ closing

def Date.text (d : Date) : String := d.moment.text Layout.date

namespace Time

def decimals (nano : Nat) : List Char :=
  if nano = 0 then []
  else if nano % 1000000 = 0 then '.' :: padded 3 (nano / 1000000)
  else if nano % 1000 = 0 then '.' :: padded 6 (nano / 1000)
  else '.' :: padded 9 nano

def text (t : Time) : String := t.moment.text Layout.time ++ String.ofList (decimals t.shownNano)

end Time

def DateTime.text (dt : DateTime) : String := dt.date.text ++ "T" ++ dt.time.text

def Offset.secondText (o : Offset) : List Char :=
  let magnitude := o.seconds.natAbs
  let seconds := magnitude % 60
  o.sign :: padded 2 (magnitude / 3600) ++ ':' :: padded 2 (magnitude / 60 % 60) ++
    (if seconds = 0 then [] else ':' :: padded 2 seconds)

namespace Json

mutual

def description : Json → String
  | .null => "Null"
  | .bool value => "Bool(" ++ boolText value ++ ")"
  | .int value => "Number(" ++ toString value ++ ")"
  | .float value => "Number(" ++ numbers.write value ++ ")"
  | .string value => "String(" ++ Text.quoted value ++ ")"
  | .array elements => joined "Array [" (elementDescriptions elements) "]"
  | .object members => joined "Object \x7b" (memberDescriptions members) "\x7d"
termination_by structural document => document

def elementDescriptions : List Json → List String
  | [] => []
  | element :: rest => element.description :: elementDescriptions rest
termination_by structural elements => elements

def memberDescriptions : List (String × Json) → List String
  | [] => []
  | (name, value) :: rest =>
      (Text.quoted name ++ ": " ++ value.description) :: memberDescriptions rest
termination_by structural members => members

end

end Json

def diagnosticNumbers : NumberStyle where
  tie := .up
  positional := fun exponent => -4 ≤ exponent && exponent ≤ 15
  decimals := true
  plus := false
  nan := "NaN"
  infinite := fun negative => if negative then "-inf" else "inf"

namespace Value

def description : Value → String
  | .null => "Null"
  | .bool value => "Bool(" ++ Json.boolText value ++ ")"
  | .int value => "Int(" ++ toString value.toInt ++ ")"
  | .float value => "Float(" ++ diagnosticNumbers.write value ++ ")"
  | .string value => "String(" ++ Text.quoted value ++ ")"
  | .bytes value => joined "Bytes([" (value.map fun b => toString b.toNat) "])"
  | .date value => "Date(" ++ value.text ++ ")"
  | .time value => "Time(" ++ value.text ++ ")"
  | .dateTime value => "DateTime(" ++ value.text ++ ")"
  | .offsetDateTime value =>
      "DateTimeOffset(" ++ value.place.text ++ String.ofList value.offset.secondText ++ ")"
  | .uuid value => "Uuid(" ++ value.text ++ ")"
  | .json value => "Json(" ++ value.description ++ ")"
  | .decimal value => "Decimal(" ++ value.text ++ ")"

def document : Value → Json
  | .null => .null
  | .bool value => .bool value
  | .int value => .int value.toInt
  | .float value => Json.ofFloat value
  | .string value => .string value
  | .bytes value => .array (value.map fun b => .int b.toNat)
  | .date value => .string value.text
  | .time value => .string value.text
  | .dateTime value => .string value.text
  | .offsetDateTime value =>
      let offset := if value.offset.seconds = 0 then ['Z'] else value.offset.minuteText
      .string (value.place.text ++ String.ofList offset)
  | .uuid value => .string value.text
  | .json value => value
  | .decimal value => .string value.text

end Value

end Sqlwright
