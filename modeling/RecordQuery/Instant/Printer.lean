import RecordQuery.Instant.Basic
import RecordQuery.Number.Printer

/-!
# Writing instants

An instant is written as an internet timestamp in UTC.  The year has four digits, or a sign and at
least four digits outside 0 to 9999; the fraction of a second has no, three, six or nine digits, the
fewest that are exact; and a leap second shows as second 60.
-/

namespace RecordQuery

/-- A natural number with at least `width` digits. -/
def Decimal.padded (width n : Nat) : List Char :=
  let digits := text n
  List.replicate (width - digits.length) '0' ++ digits

namespace Instant

def yearText (year : Int) : List Char :=
  let digits := Decimal.padded 4 year.natAbs
  if year < 0 then '-' :: digits else if year ≤ 9999 then digits else '+' :: digits

def fractionText (nano : Nat) : List Char :=
  if nano = 0 then []
  else if nano % 1000000 = 0 then '.' :: Decimal.padded 3 (nano / 1000000)
  else if nano % 1000 = 0 then '.' :: Decimal.padded 6 (nano / 1000)
  else '.' :: Decimal.padded 9 nano

def toChars (t : Instant) : List Char :=
  let leap := t.nano / nanosPerSecond
  yearText t.date.year ++
    '-' :: Decimal.padded 2 t.date.month ++
    '-' :: Decimal.padded 2 t.date.day ++
    'T' :: Decimal.padded 2 (t.second / 3600) ++
    ':' :: Decimal.padded 2 (t.second / 60 % 60) ++
    ':' :: Decimal.padded 2 (t.second % 60 + leap) ++
    fractionText (t.nano % nanosPerSecond) ++ ['Z']

/-- The text of an instant, as a string. -/
def text (t : Instant) : String := String.ofList t.toChars

end Instant

end RecordQuery
