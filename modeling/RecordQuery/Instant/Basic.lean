/-!
# Instants

An instant is a calendar date of the proleptic Gregorian calendar, a second of that day and a
nanosecond, all in UTC.  A leap second has no number of its own: it prolongs the last second of a
minute, so its nanoseconds run from 10⁹ to 2·10⁹ - 1.  With that, the lexicographic order of date,
second and nanosecond is the order of time.

Dates are kept as year, month and day.  Nothing here needs the distance of two dates; the one step
that arithmetic with offsets takes is from a day to its neighbour.
-/

namespace RecordQuery

/-- The year has a 29th of February. -/
def isLeapYear (year : Int) : Bool := year % 4 = 0 && (year % 100 ≠ 0 || year % 400 = 0)

/-- The number of days of a month; months are counted from one. -/
def daysInMonth (year : Int) (month : Nat) : Nat :=
  if month = 2 then if isLeapYear year then 29 else 28
  else if month = 4 ∨ month = 6 ∨ month = 9 ∨ month = 11 then 30
  else 31

def firstYear : Int := -262143

def lastYear : Int := 262142

/-- Year, month and day name a day of the calendar. -/
abbrev IsDate (year : Int) (month day : Nat) : Prop :=
  firstYear ≤ year ∧ year ≤ lastYear ∧ 1 ≤ month ∧ month ≤ 12 ∧
    1 ≤ day ∧ day ≤ daysInMonth year month

/-- A day of the calendar. -/
structure Date where
  year : Int
  month : Nat
  day : Nat
  isDate : IsDate year month day
deriving DecidableEq

namespace Date

/-- The date with the given year, month and day, if there is one. -/
def of? (year : Int) (month day : Nat) : Option Date :=
  if h : IsDate year month day then some ⟨year, month, day, h⟩ else none

def next? (d : Date) : Option Date :=
  if d.day < daysInMonth d.year d.month then of? d.year d.month (d.day + 1)
  else if d.month < 12 then of? d.year (d.month + 1) 1
  else of? (d.year + 1) 1 1

def previous? (d : Date) : Option Date :=
  if 1 < d.day then of? d.year d.month (d.day - 1)
  else if 1 < d.month then of? d.year (d.month - 1) (daysInMonth d.year (d.month - 1))
  else of? (d.year - 1) 12 31

def compare (a b : Date) : Ordering :=
  (Ord.compare a.year b.year).then ((Ord.compare a.month b.month).then (Ord.compare a.day b.day))

end Date

def daySeconds : Nat := 86400

def nanosPerSecond : Nat := 1000000000

/-- Second and nanosecond name a time of day.  Only the last second of a minute can be prolonged. -/
abbrev IsTime (second nano : Nat) : Prop :=
  second < daySeconds ∧ (nano < nanosPerSecond ∨ nano < 2 * nanosPerSecond ∧ second % 60 = 59)

/-- A point in time. -/
structure Instant where
  date : Date
  /-- Seconds since midnight. -/
  second : Nat
  /-- Nanoseconds since that second, beyond 10⁹ in a leap second. -/
  nano : Nat
  isTime : IsTime second nano
deriving DecidableEq

namespace Instant

/-- The instant of a day with the given second and nanosecond, if there is one. -/
def of? (date : Date) (second nano : Nat) : Option Instant :=
  if h : IsTime second nano then some ⟨date, second, nano, h⟩ else none

def midnight (date : Date) : Instant := ⟨date, 0, 0, by decide⟩

def compare (a b : Instant) : Ordering :=
  (a.date.compare b.date).then ((Ord.compare a.second b.second).then (Ord.compare a.nano b.nano))

/-- The instant at which clocks that are ahead by `offset` minutes show the date and time given,
where the offset is less than a day. -/
def behind? (shown : Instant) (offset : Int) : Option Instant :=
  let second := (shown.second : Int) - 60 * offset
  if second < 0 then do
    of? (← shown.date.previous?) (second + daySeconds).toNat shown.nano
  else if second < daySeconds then of? shown.date second.toNat shown.nano
  else do
    of? (← shown.date.next?) (second - daySeconds).toNat shown.nano

/-! ### Order -/

/-- Instants that compare as equal are equal. -/
theorem eq_of_compare_eq {a b : Instant} (h : a.compare b = .eq) : a = b := by
  obtain ⟨⟨_, _, _, _⟩, _, _, _⟩ := a
  obtain ⟨⟨_, _, _, _⟩, _, _, _⟩ := b
  simp only [compare, Date.compare, Ordering.then_eq_eq, Std.compare_eq_iff_eq] at h
  obtain ⟨⟨rfl, rfl, rfl⟩, rfl, rfl⟩ := h
  rfl

end Instant

end RecordQuery
