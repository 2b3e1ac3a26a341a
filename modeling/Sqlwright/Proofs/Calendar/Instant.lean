import Sqlwright.Proofs.Calendar.Layout

/-! Days by their number and moments as instants of universal time. Days are numbered from the
first of the year 1; a year begins behind the last month of the year before it, so no two dates have
one number. An instant is told to the second that a clock shows, the sixtieth apart from the one
before it. -/
namespace Sqlwright

def daysBeforeYear (year : Int) : Int :=
  365 * (year - 1) + (year - 1) / 4 - (year - 1) / 100 + (year - 1) / 400

def daysBeforeMonth (year : Int) : Nat → Nat
  | 0 | 1 => 0
  | month + 2 => daysBeforeMonth year (month + 1) + daysInMonth year (month + 1)

variable {year other : Int} {month : Nat}

theorem yearFilled (year : Int) :
    daysBeforeYear (year + 1) = daysBeforeYear year + daysBeforeMonth year 13 := by
  have months : daysBeforeMonth year 13 = 337 + daysInMonth year 2 := by
    simp [daysBeforeMonth, daysInMonth]
    omega
  rw [months]
  unfold daysBeforeYear daysInMonth isLeapYear
  simp only [↓reduceIte, Bool.or_eq_true, Bool.and_eq_true, beq_iff_eq, bne_iff_ne]
  split <;> omega

theorem daysBeforeYearMono (earlier : year ≤ other) :
    daysBeforeYear year ≤ daysBeforeYear other := by
  unfold daysBeforeYear
  omega

theorem daysBeforeMonthMono {later : Nat} (earlier : month ≤ later) :
    daysBeforeMonth year month ≤ daysBeforeMonth year later := by
  induction earlier with
  | refl => exact Nat.le_refl _
  | @step last _ ih =>
    cases last with
    | zero => exact ih
    | succ last => exact Nat.le_trans ih (Nat.le_add_right _ _)

namespace Date

def dayOfYear (d : Date) : Nat := daysBeforeMonth d.year d.month + d.day

def dayNumber (d : Date) : Int := daysBeforeYear d.year + d.dayOfYear

example : (Date.mk 1970 1 1 (by decide) (by decide)).dayNumber = 719163 := by decide

variable {d e : Date}

theorem dayOfYearWithin (d : Date) : daysBeforeMonth d.year d.month < d.dayOfYear ∧
    d.dayOfYear ≤ daysBeforeMonth d.year (d.month + 1) := by
  obtain ⟨year, month, day, monthValid, dayValid⟩ := d
  cases month with
  | zero => omega
  | succ month =>
    unfold dayOfYear
    rw [daysBeforeMonth]
    dsimp only at dayValid ⊢
    omega

theorem dayNumberWithin (d : Date) :
    daysBeforeYear d.year < d.dayNumber ∧ d.dayNumber ≤ daysBeforeYear (d.year + 1) := by
  have day := d.dayOfYearWithin
  have months := @daysBeforeMonthMono d.year (d.month + 1) 13 (by have := d.monthValid; omega)
  rw [yearFilled]
  unfold dayNumber
  omega

theorem monthOfDay (year : d.year = e.year) (day : d.dayOfYear = e.dayOfYear) :
    d.month = e.month := by
  have here := d.dayOfYearWithin
  have there := e.dayOfYearWithin
  rw [year] at here
  rcases Nat.lt_trichotomy d.month e.month with earlier | same | later
  · have := @daysBeforeMonthMono e.year (d.month + 1) e.month earlier
    omega
  · exact same
  · have := @daysBeforeMonthMono e.year (e.month + 1) d.month later
    omega

theorem yearOfDay (day : d.dayNumber = e.dayNumber) : d.year = e.year := by
  have here := d.dayNumberWithin
  have there := e.dayNumberWithin
  rcases Int.lt_trichotomy d.year e.year with earlier | same | later
  · have := @daysBeforeYearMono (d.year + 1) e.year earlier
    omega
  · exact same
  · have := @daysBeforeYearMono (e.year + 1) d.year later
    omega

theorem dayNumberSame : d.dayNumber = e.dayNumber ↔ d = e := by
  refine ⟨fun same => ?_, congrArg dayNumber⟩
  have year := yearOfDay same
  have days : d.dayOfYear = e.dayOfYear := by
    unfold dayNumber at same
    rw [year] at same
    omega
  have month := monthOfDay year days
  have day : d.day = e.day := by
    unfold dayOfYear at days
    rw [year, month] at days
    omega
  cases d
  cases e
  simp_all

end Date

namespace Time

def secondOfDay (t : Time) : Nat := (t.hour * 60 + t.minute) * 60 + min t.shownSecond 59

def isLeap (t : Time) : Bool := t.shownSecond = 60

variable {t other : Time}

theorem shownSecondLeap (t : Time) :
    t.shownSecond = if nanosPerSecond ≤ t.nano then t.second + 1 else t.second := by
  have bound := t.nanoValid
  unfold shownSecond
  unfold nanosPerSecond at *
  split <;> omega

theorem secondOfDayBound (t : Time) : t.secondOfDay < 86400 := by
  have clock := t.clockValid
  unfold secondOfDay
  omega

theorem secondOfDaySame : t.secondOfDay = other.secondOfDay ∧ t.isLeap = other.isLeap ↔
    t.shown = other.shown := by
  have clock := t.clockValid
  have otherClock := other.clockValid
  have second := t.shownSecondBound
  have otherSecond := other.shownSecondBound
  rw [isLeap, isLeap, decide_eq_decide, shown, shown, Clock.mk.injEq]
  unfold secondOfDay
  omega

end Time

structure Instant where
  seconds : Int
  leap : Bool
  deriving DecidableEq

namespace OffsetDateTime

def instant (dt : OffsetDateTime) : Instant where
  seconds := dt.place.date.dayNumber * 86400 + dt.place.time.secondOfDay - dt.offset.seconds
  leap := dt.place.time.isLeap

/-- The instant as it is counted: a leap second apart from the one before it, whichever that is. -/
def counted (dt : OffsetDateTime) : Instant where
  seconds := dt.place.date.dayNumber * 86400 +
    ((dt.place.time.hour * 60 + dt.place.time.minute) * 60 + dt.place.time.second : Nat) -
    dt.offset.seconds
  leap := nanosPerSecond ≤ dt.place.time.nano

variable {dt other : OffsetDateTime}

theorem instantCounted (dt : OffsetDateTime) : dt.instant =
    if nanosPerSecond ≤ dt.place.time.nano ∧ dt.place.time.second ≠ 59 then
      ⟨dt.counted.seconds + 1, false⟩
    else dt.counted := by
  have clock := dt.place.time.clockValid
  have shown := dt.place.time.shownSecondLeap
  rw [instant, counted, Time.secondOfDay, Time.isLeap, shown]
  by_cases leap : nanosPerSecond ≤ dt.place.time.nano
  · by_cases last : dt.place.time.second = 59
    · simp [leap, last]
    · have next : dt.place.time.second + 1 < 60 := by omega
      simp only [leap, last, ne_eq, not_false_eq_true, and_self, if_true, Instant.mk.injEq,
        decide_eq_false_iff_not]
      omega
  · have early : dt.place.time.second < 60 := clock.2.2
    simp only [leap, false_and, if_false, Instant.mk.injEq, decide_false,
      decide_eq_false_iff_not]
    omega

theorem instantAtOffset (offset : dt.offset = other.offset) :
    dt.instant = other.instant ↔ dt.place.shown = other.place.shown := by
  have bound := dt.place.time.secondOfDayBound
  have otherBound := other.place.time.secondOfDayBound
  rw [DateTime.shown, DateTime.shown, Prod.mk.injEq, ← Date.dayNumberSame,
    ← Time.secondOfDaySame, instant, instant, Instant.mk.injEq, offset, ← and_assoc]
  refine and_congr_left fun _ => ?_
  omega

theorem instantAtPlace (place : dt.place.shown = other.place.shown) :
    dt.instant = other.instant ↔ dt.offset = other.offset := by
  obtain ⟨date, time⟩ := Prod.mk.inj place
  obtain ⟨seconds, leap⟩ := Time.secondOfDaySame.mpr time
  have offsets : dt.offset = other.offset ↔ dt.offset.seconds = other.offset.seconds := by
    cases dt.offset
    cases other.offset
    simp
  rw [offsets, instant, instant, Instant.mk.injEq, date, seconds, leap, and_iff_left rfl]
  omega

end OffsetDateTime

end Sqlwright
