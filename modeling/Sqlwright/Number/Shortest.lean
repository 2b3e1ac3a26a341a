import Sqlwright.Number.Basic

/-! The shortest decimal that reads back as a binary number. The decimals that read back fill
the interval between the middles to the number's two neighbours; its ends belong to it when
the significand is even. Of the shortest decimals in it the nearest is taken, and of two equally
near ones as the tie says. Seventeen digits are always enough. -/
namespace Sqlwright

inductive Tie where
  | up | even
  deriving DecidableEq, Repr

structure Digits where
  coefficient : Nat
  places : Int
  deriving DecidableEq, Repr

namespace Shortest

/-- The middles to the neighbours and the number itself, counted in quarters of
`2 ^ exponent`. Below a power of two the lower neighbour is half as far. -/
structure Interval where
  low : Nat
  centre : Nat
  high : Nat
  closed : Bool

def Interval.around (significand : Nat) (exponent : Int) : Interval where
  low := if significand = twoTo 52 ∧ -1074 < exponent then 4 * significand - 1
    else 4 * significand - 2
  centre := 4 * significand
  high := 4 * significand + 2
  closed := significand % 2 = 0

/-- Factors that bring points of the grid `10 ^ places` and quarters of `2 ^ exponent` to a
common unit. -/
structure Scale where
  point : Nat
  quarter : Nat

def Scale.between (places exponent : Int) : Scale where
  point := tenTo places.toNat * twoTo (2 - exponent).toNat
  quarter := tenTo (-places).toNat * twoTo (exponent - 2).toNat

def Interval.holds (interval : Interval) (scale : Scale) (point : Nat) : Bool :=
  let p := point * scale.point
  let low := interval.low * scale.quarter
  let high := interval.high * scale.quarter
  if interval.closed then low ≤ p && p ≤ high else low < p && p < high

def Interval.nearest? (interval : Interval) (scale : Scale) (tie : Tie) : Option Nat :=
  let centre := interval.centre * scale.quarter
  let below := centre / scale.point
  let above := below + 1
  match interval.holds scale below, interval.holds scale above with
  | false, false => none
  | true, false => some below
  | false, true => some above
  | true, true =>
      let down := centre - below * scale.point
      let up := above * scale.point - centre
      if down < up then some below
      else if up < down then some above
      else if tie = .even ∧ below % 2 = 0 then some below
      else some above

def zerosBelowOne (numerator denominator : Nat) : Nat → Nat
  | 0 => 0
  | fuel + 1 =>
      if denominator ≤ numerator * 10 then 0
      else zerosBelowOne (numerator * 10) denominator fuel + 1

def digitCount (n : Nat) : Nat := (Nat.toDigits 10 n).length

/-- The number of digits before the point; for a number below one, the zeros after the point
count against it. -/
def magnitude (significand : Nat) (exponent : Int) : Int :=
  let numerator := significand * twoTo exponent.toNat
  let denominator := twoTo (-exponent).toNat
  if denominator ≤ numerator then (digitCount (numerator / denominator) : Int)
  else -(zerosBelowOne numerator denominator (digitCount denominator) : Int)

def search (interval : Interval) (exponent top : Int) (tie : Tie) : Nat → Nat → Digits
  | _, 0 => ⟨0, 0⟩
  | digits, fuel + 1 =>
      let places := top - digits
      match interval.nearest? (Scale.between places exponent) tie with
      | some point => if point = tenTo digits then ⟨1, top⟩ else ⟨point, places⟩
      | none => search interval exponent top tie (digits + 1) fuel

end Shortest

def Digits.shortest (tie : Tie) (significand : Nat) (exponent : Int) : Digits :=
  if significand = 0 then ⟨0, 0⟩
  else Shortest.search (Shortest.Interval.around significand exponent) exponent
    (Shortest.magnitude significand exponent) tie 1 17

end Sqlwright
