/-! Numbers as a database and a program hold them. A decimal has a fixed number of places, which
are part of the number: one half and fifty hundredths are written differently. A binary floating
point number is its bits, with the exact number they stand for. -/
namespace Sqlwright

def twoTo (n : Nat) : Nat := Nat.pow 2 n

def tenTo (n : Nat) : Nat := Nat.pow 10 n

theorem twoToSucc (n : Nat) : twoTo (n + 1) = twoTo n * 2 := rfl

theorem tenToSucc (n : Nat) : tenTo (n + 1) = tenTo n * 10 := rfl

theorem twoToPositive (n : Nat) : 0 < twoTo n := by
  induction n with
  | zero => decide
  | succ n ih => rw [twoToSucc]; omega

theorem tenToPositive (n : Nat) : 0 < tenTo n := by
  induction n with
  | zero => decide
  | succ n ih => rw [tenToSucc]; omega

/-- The number `mantissa / 10 ^ scale`. -/
structure Decimal where
  mantissa : Int
  scale : Nat
  mantissaValid : mantissa.natAbs < twoTo 96
  scaleValid : scale ≤ 28
  deriving DecidableEq, Repr

namespace Decimal

def ofParts? (mantissa : Int) (scale : Nat) : Option Decimal :=
  if mantissaValid : mantissa.natAbs < twoTo 96 then
    if scaleValid : scale ≤ 28 then some ⟨mantissa, scale, mantissaValid, scaleValid⟩ else none
  else none

def magnitudeText (magnitude scale : Nat) : List Char :=
  let digits := Nat.toDigits 10 magnitude
  let filled := List.replicate (scale + 1 - digits.length) '0' ++ digits
  let point := filled.length - scale
  if scale = 0 then filled else filled.take point ++ '.' :: filled.drop point

def text (d : Decimal) : String :=
  let magnitude := magnitudeText d.mantissa.natAbs d.scale
  String.ofList (if d.mantissa < 0 then '-' :: magnitude else magnitude)

def truncated (d : Decimal) : Int := d.mantissa.tdiv (tenTo d.scale)

end Decimal

structure Binary64 where
  bits : BitVec 64
  deriving DecidableEq, Repr

namespace Binary64

inductive Parts where
  | nan
  | infinite (negative : Bool)
  | finite (negative : Bool) (significand : Nat) (exponent : Int)
  deriving DecidableEq, Repr

def field (x : Binary64) : Nat := x.bits.toNat / twoTo 52 % twoTo 11

def fraction (x : Binary64) : Nat := x.bits.toNat % twoTo 52

def parts (x : Binary64) : Parts :=
  if x.field = 2047 then
    if x.fraction = 0 then .infinite x.bits.msb else .nan
  else if x.field = 0 then .finite x.bits.msb x.fraction (-1074)
  else .finite x.bits.msb (twoTo 52 + x.fraction) ((x.field : Int) - 1075)

def isNaN (x : Binary64) : Bool := x.parts == .nan

def isFinite (x : Binary64) : Bool :=
  match x.parts with
  | .finite .. => true
  | _ => false

def signed (negative : Bool) (magnitude : Nat) : Int :=
  if negative then -(magnitude : Int) else magnitude

def integer? (x : Binary64) : Option Int :=
  match x.parts with
  | .finite negative significand (.ofNat scale) => some (signed negative (significand * twoTo scale))
  | .finite negative significand (.negSucc scale) =>
      if significand % twoTo (scale + 1) = 0 then
        some (signed negative (significand / twoTo (scale + 1)))
      else none
  | _ => none

def ofFields (negative : Bool) (field fraction : Nat) : Binary64 :=
  ⟨BitVec.ofNat 64 ((if negative then twoTo 63 else 0) + field * twoTo 52 + fraction)⟩

end Binary64

structure Binary32 where
  bits : BitVec 32
  deriving DecidableEq, Repr

namespace Binary32

def field (x : Binary32) : Nat := x.bits.toNat / twoTo 23 % twoTo 8

def fraction (x : Binary32) : Nat := x.bits.toNat % twoTo 23

def widen (x : Binary32) : Binary64 :=
  if x.field = 255 then .ofFields x.bits.msb 2047 (x.fraction * twoTo 29)
  else if x.field = 0 then
    if x.fraction = 0 then .ofFields x.bits.msb 0 0
    else
      let top := x.fraction.log2
      .ofFields x.bits.msb (874 + top) ((x.fraction - twoTo top) * twoTo (52 - top))
  else .ofFields x.bits.msb (x.field + 896) (x.fraction * twoTo 29)

end Binary32

end Sqlwright
