import Sqlwright.Text.CharClass
import Sqlwright.Value.Basic

/-! Values read as integers of 64 bits. -/
namespace Sqlwright

namespace Integer

def least : Int := -(twoTo 63 : Int)
def greatest : Int := (twoTo 63 : Int) - 1

def ofInt? (n : Int) : Option Int64 :=
  if least ≤ n ∧ n ≤ greatest then some (Int64.ofInt n) else none

def digitsValue? (digits : List Char) : Option Nat :=
  if digits.isEmpty || !digits.all Char.isDigit then none
  else some (digits.foldl (fun n c => 10 * n + (c.toNat - '0'.toNat)) 0)

def parse? : List Char → Option Int
  | '-' :: digits => (digitsValue? digits).map fun n => -(n : Int)
  | '+' :: digits => (digitsValue? digits).map Int.ofNat
  | digits => (digitsValue? digits).map Int.ofNat

def clamp (n : Int) : Int := max least (min greatest n)

end Integer

/-- A floating point number beyond the range is read as the end of the range it is beyond. -/
def Value.integer? : Value → Option Int64
  | .int value => some value
  | .float value => value.integer?.map fun n => Int64.ofInt (Integer.clamp n)
  | .string value => (Integer.parse? (Text.trim value.toList)).bind Integer.ofInt?
  | .decimal value => Integer.ofInt? value.truncated
  | _ => none

end Sqlwright
