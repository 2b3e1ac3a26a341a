import Sqlwright.Calendar.Basic

/-! Layouts of dates and times: which parts are written, in which order, with which characters
between. A layout fits only a moment that has every part it names. -/
namespace Sqlwright

inductive LayoutItem where
  | year | month | day | hour | minute | second | offset
  | literal (c : Char)
  deriving DecidableEq, Repr

abbrev Layout := List LayoutItem

structure Moment where
  date? : Option Date
  time? : Option Time
  offset? : Option Offset

def Date.moment (d : Date) : Moment := ⟨some d, none, none⟩
def Time.moment (t : Time) : Moment := ⟨none, some t, none⟩
def DateTime.moment (dt : DateTime) : Moment := ⟨some dt.date, some dt.time, none⟩
def OffsetDateTime.moment (dt : OffsetDateTime) : Moment :=
  ⟨some dt.place.date, some dt.place.time, some dt.offset⟩

def padded (width n : Nat) : List Char :=
  let digits := Nat.toDigits 10 n
  List.replicate (width - digits.length) '0' ++ digits

def yearText (year : Int) : List Char :=
  if year < 0 then '-' :: padded 4 year.natAbs
  else if 9999 < year then '+' :: padded 4 year.natAbs
  else padded 4 year.natAbs

def Offset.sign (o : Offset) : Char := if o.seconds < 0 then '-' else '+'

/-- Hours and minutes; half a minute is rounded away from universal time. -/
def Offset.minuteText (o : Offset) : List Char :=
  let minutes := (o.seconds.natAbs + 30) / 60
  o.sign :: padded 2 (minutes / 60) ++ ':' :: padded 2 (minutes % 60)

namespace LayoutItem

def pattern : LayoutItem → List Char
  | .year => ['%', 'Y']
  | .month => ['%', 'm']
  | .day => ['%', 'd']
  | .hour => ['%', 'H']
  | .minute => ['%', 'M']
  | .second => ['%', 'S']
  | .offset => ['%', ':', 'z']
  | .literal '%' => ['%', '%']
  | .literal c => [c]

def write? (moment : Moment) : LayoutItem → Option (List Char)
  | .year => moment.date?.map (yearText ·.year)
  | .month => moment.date?.map (padded 2 ·.month)
  | .day => moment.date?.map (padded 2 ·.day)
  | .hour => moment.time?.map (padded 2 ·.hour)
  | .minute => moment.time?.map (padded 2 ·.minute)
  | .second => moment.time?.map (padded 2 ·.shownSecond)
  | .offset => moment.offset?.map Offset.minuteText
  | .literal c => some [c]

def Fits (moment : Moment) : LayoutItem → Prop
  | .year | .month | .day => moment.date?.isSome
  | .hour | .minute | .second => moment.time?.isSome
  | .offset => moment.offset?.isSome
  | .literal _ => True

theorem writeSome {moment : Moment} {item : LayoutItem} :
    (item.write? moment).isSome ↔ item.Fits moment := by
  cases item <;> simp [write?, Fits]

end LayoutItem

namespace Layout

def pattern (layout : Layout) : String := String.ofList (layout.flatMap LayoutItem.pattern)

def write? (moment : Moment) : Layout → Option (List Char)
  | [] => some []
  | item :: rest => do
      let head ← item.write? moment
      let tail ← write? moment rest
      some (head ++ tail)

theorem writeSome {moment : Moment} {layout : Layout} :
    (layout.write? moment).isSome ↔ ∀ item ∈ layout, item.Fits moment := by
  induction layout with
  | nil => simp [write?]
  | cons item rest ih =>
    have head := @LayoutItem.writeSome moment item
    cases first : item.write? moment <;> cases last : Layout.write? moment rest <;>
      simp_all [write?]

def format? (layout : Layout) (moment : Moment) : Option String :=
  (layout.write? moment).map String.ofList

def date : Layout := [.year, .literal '-', .month, .literal '-', .day]
def time : Layout := [.hour, .literal ':', .minute, .literal ':', .second]
def dateTime : Layout := date ++ .literal ' ' :: time
def offsetDateTime : Layout := dateTime ++ [.literal ' ', .offset]

theorem dateFits (d : Date) : ∀ item ∈ date, item.Fits d.moment := by
  simp [date, LayoutItem.Fits, Date.moment]

theorem timeFits (t : Time) : ∀ item ∈ time, item.Fits t.moment := by
  simp [time, LayoutItem.Fits, Time.moment]

theorem dateTimeFits (dt : DateTime) : ∀ item ∈ dateTime, item.Fits dt.moment := by
  simp [dateTime, date, time, LayoutItem.Fits, DateTime.moment]

theorem offsetDateTimeFits (dt : OffsetDateTime) :
    ∀ item ∈ offsetDateTime, item.Fits dt.moment := by
  simp [offsetDateTime, dateTime, date, time, LayoutItem.Fits, OffsetDateTime.moment]

end Layout

def Moment.text (moment : Moment) (layout : Layout) : String := (layout.format? moment).getD ""

theorem Moment.formatText {moment : Moment} {layout : Layout}
    (fits : ∀ item ∈ layout, item.Fits moment) :
    layout.format? moment = some (moment.text layout) := by
  obtain ⟨chars, written⟩ := Option.isSome_iff_exists.mp (Layout.writeSome.mpr fits)
  simp [Moment.text, Layout.format?, written]

end Sqlwright
