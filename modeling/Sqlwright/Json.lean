import Sqlwright.Keyed
import Sqlwright.Number.Style

/-! JSON documents and their compact text. The members of an object stand in ascending order
of their names, each once; of several members of one name the last stays. Only finite numbers
have a text. -/
namespace Sqlwright

inductive Json where
  | null
  | bool (value : Bool)
  | int (value : Int)
  | float (value : Binary64)
  | string (value : String)
  | array (elements : List Json)
  | object (members : List (String × Json))

namespace Json

def ofFloat (x : Binary64) : Json := if x.isFinite then .float x else .null

def ofMembers (members : List (String × Json)) : Json := .object (Entries.ofList members)

def numbers : NumberStyle where
  tie := .even
  positional := fun exponent => -5 ≤ exponent && exponent ≤ 15
  decimals := true
  plus := true
  nan := "null"
  infinite := fun _ => "null"

def escaped (c : Char) : List Char :=
  if c = '"' || c = '\\' then ['\\', c]
  else if c = '\x08' then ['\\', 'b']
  else if c = '\x0c' then ['\\', 'f']
  else if c = '\n' then ['\\', 'n']
  else if c = '\r' then ['\\', 'r']
  else if c = '\t' then ['\\', 't']
  else if c.toNat < 0x20 then
    let digits := Nat.toDigits 16 c.toNat
    ['\\', 'u'] ++ List.replicate (4 - digits.length) '0' ++ digits
  else [c]

def stringText (text : String) : String :=
  String.ofList ('"' :: text.toList.flatMap escaped ++ ['"'])

def boolText (value : Bool) : String := if value then "true" else "false"

def bracketed (opening : String) (items : List String) (closing : String) : String :=
  opening ++ String.intercalate "," items ++ closing

mutual

def text : Json → String
  | .null => "null"
  | .bool value => boolText value
  | .int value => toString value
  | .float value => numbers.write value
  | .string value => stringText value
  | .array elements => bracketed "[" (elementTexts elements) "]"
  | .object members => bracketed "\x7b" (memberTexts members) "\x7d"
termination_by structural document => document

def elementTexts : List Json → List String
  | [] => []
  | element :: rest => element.text :: elementTexts rest
termination_by structural elements => elements

def memberTexts : List (String × Json) → List String
  | [] => []
  | (name, value) :: rest => (stringText name ++ ":" ++ value.text) :: memberTexts rest
termination_by structural members => members

end

end Json

end Sqlwright
