import Mathlib
import Sqlwright.Calendar.Layout

/-! What is left of a date or time in its text. Behind the year every part of a layout has a width
of its own, so moments with one text have one text for each part. A date is told by its text, a
time to the second that is shown and an offset to the minute. -/
namespace Sqlwright

section Padded

variable {width m n : Nat}

theorem paddedRead (width n : Nat) : Nat.ofDigitChars 10 (padded width n) 0 = n := by
  rw [padded, Nat.ofDigitChars_append, Nat.ofDigitChars_replicate_zero, Nat.mul_zero,
    Nat.ofDigitChars_ten_toDigits]

theorem paddedSame : padded width m = padded width n ↔ m = n := by
  refine ⟨fun same => ?_, congrArg (padded width)⟩
  rw [← paddedRead width m, same, paddedRead]

theorem paddedLength (wide : 0 < width) (fits : n < 10 ^ width) :
    (padded width n).length = width := by
  have short := (Nat.length_toDigits_le_iff (by decide) wide).mpr fits
  rw [padded, List.length_append, List.length_replicate]
  omega

theorem paddedDigits : ∀ c ∈ padded width n, c.isDigit = true := by
  intro c member
  rcases List.mem_append.mp member with filling | digit
  · rw [List.eq_of_mem_replicate filling]
    decide
  · exact Nat.isDigit_of_mem_toDigits (by decide) (by decide) digit

end Padded

theorem yearDigits (year : Int) : (yearText year).filter Char.isDigit = padded 4 year.natAbs := by
  have all := List.filter_eq_self.mpr (@paddedDigits 4 year.natAbs)
  unfold yearText
  split
  · rw [List.filter_cons_of_neg (by decide), all]
  · split
    · rw [List.filter_cons_of_neg (by decide), all]
    · exact all

theorem yearSign {year : Int} : '-' ∈ yearText year ↔ year < 0 := by
  have unsigned : '-' ∉ padded 4 year.natAbs := fun member =>
    absurd (paddedDigits '-' member) (by decide)
  unfold yearText
  split
  · exact iff_of_true List.mem_cons_self (by assumption)
  · split
    · exact iff_of_false (by simp [unsigned]) (by assumption)
    · exact iff_of_false unsigned (by assumption)

theorem yearSame {year other : Int} : yearText year = yearText other ↔ year = other := by
  refine ⟨fun same => ?_, congrArg yearText⟩
  have size : year.natAbs = other.natAbs := by
    rw [← @paddedSame 4, ← yearDigits, ← yearDigits, same]
  have sign : year < 0 ↔ other < 0 := by rw [← yearSign, ← yearSign, same]
  omega

namespace Offset

def WholeMinute (offset : Offset) : Prop := 60 ∣ offset.seconds

variable {offset other : Offset}

theorem minuteWidth (offset : Offset) : offset.minuteText.length = 6 := by
  have bound := offset.valid
  have hours : (padded 2 ((offset.seconds.natAbs + 30) / 60 / 60)).length = 2 :=
    paddedLength (by decide) (by omega)
  have minutes : (padded 2 ((offset.seconds.natAbs + 30) / 60 % 60)).length = 2 :=
    paddedLength (by decide) (by omega)
  simp [minuteText, hours, minutes]

theorem minuteSame (whole : offset.WholeMinute) (otherWhole : other.WholeMinute) :
    offset.minuteText = other.minuteText ↔ offset = other := by
  refine ⟨fun same => ?_, congrArg minuteText⟩
  obtain ⟨sign, digits⟩ := List.cons_eq_cons.mp same
  have minutes (o : Offset) : (padded 2 ((o.seconds.natAbs + 30) / 60 % 60)).length = 2 :=
    paddedLength (by decide) (by omega)
  obtain ⟨hour, minute⟩ := List.append_inj' digits (by simp [minutes])
  have hours := paddedSame.mp hour
  have rest := paddedSame.mp (List.cons_eq_cons.mp minute).2
  have signs : offset.seconds < 0 ↔ other.seconds < 0 := by
    unfold Offset.sign at sign
    by_cases west : offset.seconds < 0 <;> by_cases otherWest : other.seconds < 0 <;>
      simp [west, otherWest] at sign ⊢
  obtain ⟨here, own⟩ := whole
  obtain ⟨there, further⟩ := otherWhole
  have seconds : offset.seconds = other.seconds := by omega
  cases offset
  cases other
  simpa using seconds

end Offset

namespace LayoutItem

def width? : LayoutItem → Option Nat
  | .year => none
  | .month | .day | .hour | .minute | .second => some 2
  | .offset => some 6
  | .literal _ => some 1

theorem writtenWidth {moment : Moment} {item : LayoutItem} {text : List Char} {width : Nat}
    (written : item.write? moment = some text) (fixed : item.width? = some width) :
    text.length = width := by
  have two {n : Nat} (small : n < 10 ^ 2) : (padded 2 n).length = 2 :=
    paddedLength (by decide) small
  have days (d : Date) : d.month < 10 ^ 2 ∧ d.day < 10 ^ 2 := by
    have month := d.monthValid
    have day := d.dayValid
    unfold daysInMonth at day
    split at day <;> split at day <;> omega
  have clock (t : Time) := t.clockValid
  cases item with
  | year => cases fixed
  | literal c =>
    cases fixed
    cases written
    rfl
  | offset =>
    cases fixed
    obtain ⟨offset, -, rfl⟩ := Option.map_eq_some_iff.mp written
    exact offset.minuteWidth
  | month =>
    cases fixed
    obtain ⟨d, -, rfl⟩ := Option.map_eq_some_iff.mp written
    exact two (days d).1
  | day =>
    cases fixed
    obtain ⟨d, -, rfl⟩ := Option.map_eq_some_iff.mp written
    exact two (days d).2
  | hour =>
    cases fixed
    obtain ⟨t, -, rfl⟩ := Option.map_eq_some_iff.mp written
    exact two (by have := clock t; omega)
  | minute =>
    cases fixed
    obtain ⟨t, -, rfl⟩ := Option.map_eq_some_iff.mp written
    exact two (by have := clock t; omega)
  | second =>
    cases fixed
    obtain ⟨t, -, rfl⟩ := Option.map_eq_some_iff.mp written
    exact two (by have := t.shownSecondBound; omega)

end LayoutItem

namespace Layout

variable {layout : Layout} {first second : Moment}

theorem writtenWidths (fixed : ∀ item ∈ layout, item.width?.isSome) {text other : List Char}
    (here : layout.write? first = some text) (there : layout.write? second = some other) :
    text.length = other.length := by
  induction layout generalizing text other with
  | nil =>
    cases here
    cases there
    rfl
  | cons item rest ih =>
    obtain ⟨width, own⟩ := Option.isSome_iff_exists.mp (fixed item List.mem_cons_self)
    simp only [write?, Option.bind_eq_bind, Option.bind_eq_some_iff] at here there
    obtain ⟨head, headWritten, tail, tailWritten, joined⟩ := here
    obtain ⟨otherHead, otherHeadWritten, otherTail, otherTailWritten, otherJoined⟩ := there
    cases joined
    cases otherJoined
    rw [List.length_append, List.length_append, LayoutItem.writtenWidth headWritten own,
      LayoutItem.writtenWidth otherHeadWritten own,
      ih (fun later member => fixed later (List.mem_cons_of_mem _ member)) tailWritten
        otherTailWritten]

theorem partsSame (fixed : ∀ item ∈ layout.tail, item.width?.isSome) {text : List Char}
    (here : layout.write? first = some text) (there : layout.write? second = some text) :
    ∀ item ∈ layout, item.write? first = item.write? second := by
  induction layout generalizing text with
  | nil => simp
  | cons item rest ih =>
    simp only [write?, Option.bind_eq_bind, Option.bind_eq_some_iff] at here there
    obtain ⟨head, headWritten, tail, tailWritten, joined⟩ := here
    obtain ⟨otherHead, otherHeadWritten, otherTail, otherTailWritten, otherJoined⟩ := there
    cases joined
    -- The first part may be of any width, so it is cut off by what is behind it.
    obtain ⟨rfl, rfl⟩ := List.append_inj' (Option.some.inj otherJoined)
      (writtenWidths fixed otherTailWritten tailWritten)
    refine List.forall_mem_cons.mpr ⟨headWritten.trans otherHeadWritten.symm, ?_⟩
    exact ih (fun later member => fixed later (List.mem_of_mem_tail member)) tailWritten
      otherTailWritten

theorem writtenParts (same : ∀ item ∈ layout, item.write? first = item.write? second) :
    layout.write? first = layout.write? second := by
  induction layout with
  | nil => rfl
  | cons item rest ih =>
    obtain ⟨head, tail⟩ := List.forall_mem_cons.mp same
    rw [write?, write?, head, ih tail]

end Layout

theorem Moment.textSame {layout : Layout} {first second : Moment}
    (fixed : ∀ item ∈ layout.tail, item.width?.isSome)
    (fits : ∀ item ∈ layout, item.Fits first) (otherFits : ∀ item ∈ layout, item.Fits second) :
    first.text layout = second.text layout ↔
      ∀ item ∈ layout, item.write? first = item.write? second := by
  obtain ⟨text, written⟩ := Option.isSome_iff_exists.mp (Layout.writeSome.mpr fits)
  obtain ⟨other, otherWritten⟩ := Option.isSome_iff_exists.mp (Layout.writeSome.mpr otherFits)
  constructor
  · intro same
    simp only [Moment.text, Layout.format?, written, otherWritten, Option.map_some,
      Option.getD_some, String.ofList_inj] at same
    subst same
    exact Layout.partsSame fixed written otherWritten
  · intro same
    rw [Moment.text, Moment.text, Layout.format?, Layout.format?, Layout.writtenParts same]

theorem Date.textSame {d other : Date} :
    d.moment.text Layout.date = other.moment.text Layout.date ↔ d = other := by
  refine ⟨fun same => ?_, congrArg fun date : Date => date.moment.text Layout.date⟩
  have parts := (Moment.textSame (by decide) (Layout.dateFits d) (Layout.dateFits other)).mp same
  simp only [Layout.date, LayoutItem.write?, Date.moment, List.forall_mem_cons, Option.map_some,
    Option.some.injEq, yearSame, paddedSame] at parts
  obtain ⟨year, -, month, -, day, -⟩ := parts
  cases d
  cases other
  simp_all

structure Clock where
  hour : Nat
  minute : Nat
  second : Nat
  deriving DecidableEq

namespace Time

def shown (t : Time) : Clock := ⟨t.hour, t.minute, t.shownSecond⟩

variable {t other : Time}

theorem textSame : t.moment.text Layout.time = other.moment.text Layout.time ↔
    t.shown = other.shown := by
  rw [Moment.textSame (by decide) (Layout.timeFits t) (Layout.timeFits other), shown, shown]
  simp [Layout.time, LayoutItem.write?, Time.moment, paddedSame]

example : (Time.mk 23 56 4 1333333333 (by decide) (by decide)).moment.text Layout.time =
    (Time.mk 23 56 5 0 (by decide) (by decide)).moment.text Layout.time := by decide

end Time

namespace DateTime

def shown (dt : DateTime) : Date × Clock := (dt.date, dt.time.shown)

variable {dt other : DateTime}

theorem partsSame : (∀ item ∈ Layout.dateTime, item.write? dt.moment = item.write? other.moment) ↔
    dt.shown = other.shown := by
  rw [shown, shown, Prod.mk.injEq, ← Date.textSame, ← Time.textSame,
    Moment.textSame (by decide) (Layout.dateFits _) (Layout.dateFits _),
    Moment.textSame (by decide) (Layout.timeFits _) (Layout.timeFits _)]
  simp [Layout.dateTime, Layout.date, Layout.time, LayoutItem.write?, DateTime.moment, Date.moment,
    Time.moment, and_assoc]

theorem textSame : dt.moment.text Layout.dateTime = other.moment.text Layout.dateTime ↔
    dt.shown = other.shown := by
  rw [Moment.textSame (by decide) (Layout.dateTimeFits dt) (Layout.dateTimeFits other), partsSame]

end DateTime

namespace OffsetDateTime

variable {dt other : OffsetDateTime}

theorem placeParts (dt : OffsetDateTime) :
    ∀ item ∈ Layout.dateTime, item.write? dt.moment = item.write? dt.place.moment := by
  simp [Layout.dateTime, Layout.date, Layout.time, LayoutItem.write?, OffsetDateTime.moment,
    DateTime.moment]

theorem placeText (dt : OffsetDateTime) :
    dt.moment.text Layout.dateTime = dt.place.moment.text Layout.dateTime := by
  rw [Moment.text, Moment.text, Layout.format?, Layout.format?, Layout.writtenParts dt.placeParts]

theorem textSame (whole : dt.offset.WholeMinute) (otherWhole : other.offset.WholeMinute) :
    dt.moment.text Layout.offsetDateTime = other.moment.text Layout.offsetDateTime ↔
      dt.place.shown = other.place.shown ∧ dt.offset = other.offset := by
  have shown : (∀ item ∈ Layout.dateTime, item.write? dt.moment = item.write? other.moment) ↔
      dt.place.shown = other.place.shown := by
    rw [← DateTime.partsSame]
    refine forall₂_congr fun item member => ?_
    rw [dt.placeParts item member, other.placeParts item member]
  have added : (∀ item ∈ [LayoutItem.literal ' ', .offset],
      item.write? dt.moment = item.write? other.moment) ↔ dt.offset = other.offset := by
    rw [← Offset.minuteSame whole otherWhole]
    simp [LayoutItem.write?, OffsetDateTime.moment]
  rw [Moment.textSame (by decide) (Layout.offsetDateTimeFits dt) (Layout.offsetDateTimeFits other),
    Layout.offsetDateTime, List.forall_mem_append, shown, added]

end OffsetDateTime

end Sqlwright
