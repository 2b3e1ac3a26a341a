/-! Days of the Gregorian calendar, extended to all years, and times of day. Year 0 comes
before year 1. A leap second is told by a nanosecond count of a thousand million or more. Behind
the 59th second it is shown as the sixtieth, behind any other as the one after that. An offset is a
distance from universal time, east counted positive; the date and time beside it are those of the
place. -/
namespace Sqlwright

def isLeapYear (year : Int) : Bool := (year % 4 == 0 && year % 100 != 0) || year % 400 == 0

def daysInMonth (year : Int) (month : Nat) : Nat :=
  if month = 2 then (if isLeapYear year then 29 else 28)
  else if month ∈ [4, 6, 9, 11] then 30 else 31

structure Date where
  year : Int
  month : Nat
  day : Nat
  monthValid : 1 ≤ month ∧ month ≤ 12
  dayValid : 1 ≤ day ∧ day ≤ daysInMonth year month
  deriving DecidableEq, Repr

def Date.ofFields? (year : Int) (month day : Nat) : Option Date :=
  if monthValid : 1 ≤ month ∧ month ≤ 12 then
    if dayValid : 1 ≤ day ∧ day ≤ daysInMonth year month then
      some ⟨year, month, day, monthValid, dayValid⟩
    else none
  else none

def nanosPerSecond : Nat := 1000000000

structure Time where
  hour : Nat
  minute : Nat
  second : Nat
  nano : Nat
  clockValid : hour < 24 ∧ minute < 60 ∧ second < 60
  nanoValid : nano < 2 * nanosPerSecond
  deriving DecidableEq, Repr

namespace Time

def ofFields? (hour minute second nano : Nat) : Option Time :=
  if clockValid : hour < 24 ∧ minute < 60 ∧ second < 60 then
    if nanoValid : nano < 2 * nanosPerSecond then
      some ⟨hour, minute, second, nano, clockValid, nanoValid⟩
    else none
  else none

def shownSecond (t : Time) : Nat := t.second + t.nano / nanosPerSecond

def shownNano (t : Time) : Nat := t.nano % nanosPerSecond

theorem shownSecondBound (t : Time) : t.shownSecond ≤ 60 := by
  obtain ⟨_, _, second⟩ := t.clockValid
  have leap : t.nano / nanosPerSecond < 2 :=
    Nat.div_lt_of_lt_mul (Nat.mul_comm .. ▸ t.nanoValid)
  unfold shownSecond
  omega

end Time

structure DateTime where
  date : Date
  time : Time
  deriving DecidableEq, Repr

structure Offset where
  seconds : Int
  valid : seconds.natAbs < 86400
  deriving DecidableEq, Repr

def Offset.ofSeconds? (seconds : Int) : Option Offset :=
  if valid : seconds.natAbs < 86400 then some ⟨seconds, valid⟩ else none

structure OffsetDateTime where
  place : DateTime
  offset : Offset
  deriving DecidableEq, Repr

end Sqlwright
