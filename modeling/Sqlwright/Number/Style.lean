import Sqlwright.Number.Shortest

/-! How a text writes binary numbers: the shortest digits that read back, positionally or with
an exponent, as the decimal exponent of the first digit decides. A whole number may keep one
decimal, and an exponent above zero may have a sign. -/
namespace Sqlwright

structure NumberStyle where
  tie : Tie
  positional : Int → Bool
  decimals : Bool
  plus : Bool
  nan : String
  infinite : Bool → String

namespace NumberStyle

def whole (style : NumberStyle) (digits : List Char) : List Char :=
  if style.decimals then digits ++ ['.', '0'] else digits

def fixed (style : NumberStyle) (digits : List Char) (exponent : Int) : List Char :=
  match exponent with
  | .negSucc zeros => '0' :: '.' :: List.replicate zeros '0' ++ digits
  | .ofNat above =>
      if digits.length ≤ above + 1 then
        style.whole (digits ++ List.replicate (above + 1 - digits.length) '0')
      else digits.take (above + 1) ++ '.' :: digits.drop (above + 1)

def mantissa : List Char → List Char
  | first :: rest@(_ :: _) => first :: '.' :: rest
  | digits => digits

def scientific (style : NumberStyle) (digits : List Char) (exponent : Int) : List Char :=
  let sign := if exponent < 0 then ['-'] else if style.plus then ['+'] else []
  mantissa digits ++ 'e' :: sign ++ Nat.toDigits 10 exponent.natAbs

def decimal (style : NumberStyle) (number : Digits) : List Char :=
  let digits := Nat.toDigits 10 number.coefficient
  let exponent := number.places + digits.length - 1
  if style.positional exponent then style.fixed digits exponent
  else style.scientific digits exponent

def write (style : NumberStyle) (x : Binary64) : String :=
  match x.parts with
  | .nan => style.nan
  | .infinite negative => style.infinite negative
  | .finite negative significand exponent =>
      let magnitude := style.decimal (Digits.shortest style.tie significand exponent)
      String.ofList (if negative then '-' :: magnitude else magnitude)

end NumberStyle

end Sqlwright
