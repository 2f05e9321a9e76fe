import RecordQuery.Instant.Basic
import RecordQuery.Number.Reader
import RecordQuery.Text.Blank

/-!
# Reading instants

Four forms of text name an instant, and `Instant.ofText?` tries them in this order:

1. an internet timestamp, with fixed field widths and an offset (`2024-03-15T10:30:00.5+02:00`);
2. date and time in UTC with a `T` between them (`2024-3-5T7:00:00`);
3. date and time in UTC with any amount of blanks between them;
4. a date alone, which stands for its midnight in UTC.

Forms 2 to 4 are *loose*: a field may have fewer digits than its width and blanks before it, and a
year with a sign may have any number of digits.  In every form a fraction of a second may have any
number of digits, of which the first nine count, and second 60 is a leap second of any minute.
Nothing may follow.

A typed date literal admits a fifth form, `Instant.ofSpacedText?`: a timestamp with offset whose
fields are loose and which may have blanks between its parts.
-/

namespace RecordQuery

namespace Instant

/-! ### Fields -/

/-- The given character, and what follows it. -/
def mark? (c : Char) : List Char → Option (List Char)
  | [] => none
  | d :: cs => if d = c then some cs else none

/-- A number of exactly `width` digits, and what follows it. -/
def fixed? (width : Nat) (cs : List Char) : Option (Nat × List Char) :=
  let digits := cs.take width
  if digits.length = width ∧ digits.all Char.isDigit then
    some (Decimal.value digits, cs.drop width)
  else none

/-- A number of one to `width` digits after any blanks, and what follows it. -/
def loose? (width : Nat) (cs : List Char) : Option (Nat × List Char) :=
  let cs := Text.trimStart cs
  let digits := (cs.take width).takeWhile Char.isDigit
  if digits = [] then none else some (Decimal.value digits, cs.drop digits.length)

/-- A number of any number of digits, and what follows it. -/
def unbounded? (cs : List Char) : Option (Nat × List Char) :=
  let (digits, rest) := Decimal.spanDigits cs
  if digits = [] then none else some (Decimal.value digits, rest)

/-- A year after any blanks: four digits at most, or any number of them after a sign. -/
def looseYear? (cs : List Char) : Option (Int × List Char) :=
  match Text.trimStart cs with
  | '-' :: cs => (unbounded? cs).map fun (n, rest) => (-(n : Int), rest)
  | '+' :: cs => (unbounded? cs).map fun (n, rest) => ((n : Int), rest)
  | cs => (loose? 4 cs).map fun (n, rest) => ((n : Int), rest)

/-- The nanoseconds that the digits of a fraction of a second spell: the first nine count, and
missing ones are zero. -/
def nanosOf (digits : List Char) : Nat := Decimal.value ((digits ++ List.replicate 9 '0').take 9)

/-- An optional fraction of a second in nanoseconds, and what follows it. -/
def fraction? : List Char → Option (Nat × List Char)
  | '.' :: cs =>
    let (digits, rest) := Decimal.spanDigits cs
    if digits = [] then none else some (nanosOf digits, rest)
  | cs => some (0, cs)

/-- The instant of a date with the given time fields.  Second 60 prolongs second 59. -/
def atTime? (date : Date) (hour minute second nano : Nat) : Option Instant :=
  if hour ≤ 23 ∧ minute ≤ 59 ∧ second ≤ 60 then
    let start := 3600 * hour + 60 * minute
    if second = 60 then of? date (start + 59) (nanosPerSecond + nano)
    else of? date (start + second) nano
  else none

/-- An offset from UTC in minutes, and what follows it: `Z`, or a sign, hours and minutes with
whatever `separator` skips between them. -/
def offset? (separator : List Char → Option (List Char)) : List Char → Option (Int × List Char)
  | [] => none
  | c :: cs =>
    if c = 'Z' ∨ c = 'z' then some (0, cs)
    else if c = '+' ∨ c = '-' ∨ c = '\u2212' then do
      let (hours, cs) ← fixed? 2 cs
      let cs ← separator cs
      let (minutes, cs) ← fixed? 2 cs
      if hours ≤ 23 ∧ minutes ≤ 59 then
        let ahead : Int := 60 * hours + minutes
        return (if c = '+' then ahead else -ahead, cs)
      else none
    else none

def ended? : List Char → Option Unit
  | [] => some ()
  | _ :: _ => none

/-! ### Forms -/

def ofTimestamp? (cs : List Char) : Option Instant := do
  let (year, cs) ← fixed? 4 cs
  let cs ← mark? '-' cs
  let (month, cs) ← fixed? 2 cs
  let cs ← mark? '-' cs
  let (day, cs) ← fixed? 2 cs
  let cs ← (mark? 'T' cs).or ((mark? 't' cs).or (mark? ' ' cs))
  let (hour, cs) ← fixed? 2 cs
  let cs ← mark? ':' cs
  let (minute, cs) ← fixed? 2 cs
  let cs ← mark? ':' cs
  let (second, cs) ← fixed? 2 cs
  let (nano, cs) ← fraction? cs
  let (offset, cs) ← offset? (mark? ':') cs
  ended? cs
  (← atTime? (← Date.of? year month day) hour minute second nano).behind? offset

/-- A loose date, and what follows it. -/
def looseDate? (cs : List Char) : Option (Date × List Char) := do
  let (year, cs) ← looseYear? cs
  let cs ← mark? '-' cs
  let (month, cs) ← loose? 2 cs
  let cs ← mark? '-' cs
  let (day, cs) ← loose? 2 cs
  return (← Date.of? year month day, cs)

/-- A loose time of day, up to the end of the text. -/
def looseTime? (date : Date) (cs : List Char) : Option Instant := do
  let (hour, cs) ← loose? 2 cs
  let cs ← mark? ':' cs
  let (minute, cs) ← loose? 2 cs
  let cs ← mark? ':' cs
  let (second, cs) ← loose? 2 cs
  let (nano, cs) ← fraction? cs
  ended? cs
  atTime? date hour minute second nano

/-- A loose date and time with a `T` between them. -/
def ofMarkedText? (cs : List Char) : Option Instant := do
  let (date, cs) ← looseDate? cs
  looseTime? date (← mark? 'T' cs)

/-- A loose date and time with blanks, or nothing, between them. -/
def ofBlankedText? (cs : List Char) : Option Instant := do
  let (date, cs) ← looseDate? cs
  looseTime? date cs

def ofDateText? (cs : List Char) : Option Instant := do
  let (date, cs) ← looseDate? cs
  ended? cs
  return midnight date

def ofText? (cs : List Char) : Option Instant :=
  (ofTimestamp? cs).or ((ofMarkedText? cs).or ((ofBlankedText? cs).or (ofDateText? cs)))

/-! ### Typed literals -/

/-- Colons and blanks, any number of them. -/
def colonsOrBlanks (cs : List Char) : List Char := cs.dropWhile fun c => c = ':' || Text.isBlank c

/-- The name of UTC in any case of letters, or an offset, and what follows it. -/
def zone? (cs : List Char) : Option (Int × List Char) :=
  if (cs.take 3).map Char.toLower = ['u', 't', 'c'] then some (0, cs.drop 3)
  else offset? (some ∘ colonsOrBlanks) cs

/-- A timestamp with an offset, with loose fields and blanks between its parts. -/
def ofSpacedText? (cs : List Char) : Option Instant := do
  let (year, cs) ← looseYear? cs
  let cs ← mark? '-' (Text.trimStart cs)
  let (month, cs) ← loose? 2 cs
  let cs ← mark? '-' (Text.trimStart cs)
  let (day, cs) ← loose? 2 cs
  let cs ← (mark? 'T' cs).or ((mark? 't' cs).or (mark? ' ' cs))
  let (hour, cs) ← loose? 2 cs
  let cs ← mark? ':' (Text.trimStart cs)
  let (minute, cs) ← loose? 2 cs
  let cs ← mark? ':' (Text.trimStart cs)
  let (second, cs) ← loose? 2 cs
  let (nano, cs) ← fraction? cs
  let (offset, cs) ← zone? (Text.trimStart cs)
  ended? (Text.trimStart cs)
  (← atTime? (← Date.of? year month day) hour minute second nano).behind? offset

end Instant

end RecordQuery
