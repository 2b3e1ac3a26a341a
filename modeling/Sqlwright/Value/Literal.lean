import Sqlwright.Calendar.Layout
import Sqlwright.Config
import Sqlwright.Value.Basic

/-! Values written out in a statement. A number never has an exponent, and a whole number no
decimals. -/
namespace Sqlwright

namespace Uuid

def hexDigits (u : Uuid) : List Char :=
  let digits := Nat.toDigits 16 u.bits.toNat
  List.replicate (32 - digits.length) '0' ++ digits

def text (u : Uuid) : String :=
  let digits := u.hexDigits
  let group (start size : Nat) := String.ofList ((digits.drop start).take size)
  String.intercalate "-" [group 0 8, group 8 4, group 12 4, group 16 4, group 20 12]

end Uuid

def upperByte (b : UInt8) : List Char :=
  let digits := (Nat.toDigits 16 b.toNat).map Char.toUpper
  List.replicate (2 - digits.length) '0' ++ digits

def literalNumbers : NumberStyle where
  tie := .up
  positional := fun _ => true
  decimals := false
  plus := false
  nan := "NaN"
  infinite := fun negative => if negative then "-inf" else "inf"

def Value.literal (config : Config) : Value → String
  | .null => "NULL"
  | .bool value => config.boolText value
  | .int value => toString value.toInt
  | .float value => literalNumbers.write value
  | .string value => config.quoted value
  | .bytes value => "0x" ++ String.ofList (value.flatMap upperByte)
  | .date value => config.quoted (value.moment.text Layout.date)
  | .time value => config.quoted (value.moment.text Layout.time)
  | .dateTime value => config.quoted (value.moment.text Layout.dateTime)
  | .offsetDateTime value => config.quoted (value.moment.text Layout.offsetDateTime)
  | .uuid value => config.quoted value.text
  | .json value => config.quoted value.text
  | .decimal value => value.text

end Sqlwright
